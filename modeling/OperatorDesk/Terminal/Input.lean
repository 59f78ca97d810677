/-
This file turns what a terminal reports into what the shell hears. A key that is let go says
nothing. With the control key held down only Ctrl+C is heard, as an interrupt. Shift turns Tab
into its opposite; the other modifiers change nothing.
-/

import OperatorDesk.Shell.Event

namespace OperatorDesk.Terminal

/-- The keys a terminal can report. -/
inductive KeyCode where
  | backspace
  | enter
  | left
  | right
  | up
  | down
  | home
  | finish
  | pageUp
  | pageDown
  | tab
  | backTab
  | delete
  | insert
  | function (number : Nat)
  | char (c : Char)
  | null
  | esc
  | capsLock
  deriving DecidableEq, Repr

/-- The keys that can be held down with another. -/
inductive Modifier where
  | shift
  | control
  | alt
  | superKey
  | hyperKey
  | metaKey
  deriving DecidableEq, Repr

/-- Whether a key goes down, is held, or is let go. -/
inductive KeyMotion where
  | press
  | hold
  | letGo
  deriving DecidableEq, Repr

/-- One report about a key. -/
structure KeyReport where
  code : KeyCode
  modifiers : List Modifier
  motion : KeyMotion
  deriving DecidableEq, Repr

/-- One report of the terminal. -/
inductive Report where
  | key (report : KeyReport)
  | resize (width height : Nat)
  | focusGained
  | focusLost
  | mouse
  | paste (text : String)
  deriving DecidableEq, Repr

namespace KeyReport

/-- The shell's key for a code, with or without Shift. -/
def keyOf? (shifted : Bool) : KeyCode → Option Key
  | .tab => some (if shifted then .backTab else .tab)
  | .backTab => some .backTab
  | .enter => some .enter
  | .esc => some .esc
  | .backspace => some .backspace
  | .up => some .up
  | .down => some .down
  | .char c => some (.char c)
  | _ => none

/-- What the shell hears of a key. -/
def event? (report : KeyReport) : Option Event :=
  if report.motion = .letGo then none
  else if report.modifiers.contains .control then
    if report.code = .char 'c' ∨ report.code = .char 'C' then some .interrupt else none
  else (keyOf? (report.modifiers.contains .shift) report.code).map Event.key

end KeyReport

/-- What the shell hears of a report. -/
def Report.event? : Report → Option Event
  | .key report => report.event?
  | .resize width height => some (.resize width height)
  | _ => none

end OperatorDesk.Terminal
