/-
This file defines the views of the shell and the two ways of laying them out. A view lists its
panels in the order in which they take the focus, the view that Enter leads to, and what draws
it. What draws it is left open: the shell carries a value for it and never looks inside, and
diagnostic output shows it only as present or absent.
-/

import OperatorDesk.Text.Quoted

namespace OperatorDesk

/-- One screen of the dashboard. -/
structure View (Picture : Type) where
  /-- In the order of the Tab key. -/
  panels : List String
  /-- Opened by Enter when no overlay lies above. -/
  target : Option String
  picture : Option Picture
  deriving DecidableEq, Repr

namespace View

variable {Picture : Type}

/-- A view without panels, without a target, and without a picture. -/
def blank : View Picture :=
  { panels := [], target := none, picture := none }

/-- The definition on one line, for diagnostic output. -/
def diagnostic (view : View Picture) : String :=
  "ViewDefinition \x7b focus_order: " ++ Text.quotedList view.panels ++ ", enter_target: " ++
    Text.quotedOption view.target ++ ", render: " ++
    Text.quotedOption (view.picture.map fun _ => "<fn>") ++ " \x7d"

end View

/-- How panels are placed. -/
inductive Layout where
  /-- Side by side. -/
  | standard
  /-- One above the other. -/
  | compact
  deriving DecidableEq, Repr

namespace Layout

/-- Standard from the threshold on, compact below it. -/
def ofWidth (width compactBelow : Nat) : Layout :=
  if compactBelow ≤ width then .standard else .compact

/-- The layout before any width is known. -/
def initial : Layout := .compact

/-- The name shown in the header. -/
def label : Layout → String
  | .standard => "standard"
  | .compact => "compact"

end Layout

end OperatorDesk
