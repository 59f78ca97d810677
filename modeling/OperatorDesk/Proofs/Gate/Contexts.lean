/-
This file shows that the deadline of a context only moves towards the present, and that a context
which has ended stays so. A deadline is the earliest of the times that were ever set for the context
or, before it was copied, for its original. A context, its copies and the handle that it came with
always agree on whether it was cancelled; only a handle cancels, and nothing undoes that. A look at
a context and a wait on it find the same.
-/

import OperatorDesk.Gate.Contexts
import OperatorDesk.Proofs.Gate.Ending
import Mathlib.Data.List.Induction

namespace OperatorDesk

namespace Context

/-! ### Looking and waiting -/

theorem cancelSignal_eq (context : Context) (used : List Token) :
    context.cancelSignal used = if context.isCancelled used then some .cancelled else none := by
  unfold cancelSignal isCancelled
  cases context.token <;> simp

theorem timerSignal_eq (context : Context) (served : Nat) :
    context.timerSignal served = if context.isExpired served then some .expired else none := by
  unfold timerSignal isExpired
  cases context.deadline <;> simp

/-- What is heard of a context is what a look finds when the clock shows the time up to which timers
have been served. -/
theorem signal_eq_check (context : Context) (used : List Token) (time : Nat) :
    context.signal used time = context.check used time := by
  rw [signal, check, cancelSignal_eq, timerSignal_eq]
  cases context.isCancelled used <;> rfl

/-- A look finds a reason exactly if it is a good one. -/
theorem check_eq_some_iff {context : Context} {used : List Token} {now : Nat} {ending : Ending} :
    context.check used now = some ending ↔ context.EndedBy used now ending := by
  refine ⟨endedBy_of_check, fun ended => ?_⟩
  cases ending with
  | cancelled => exact if_pos (isCancelled_eq_true_iff.mpr ended)
  | expired =>
    obtain ⟨unused, reached⟩ := ended
    have uncancelled : ¬context.isCancelled used = true := fun cancelled => by
      obtain ⟨token, isToken, isUsed⟩ := isCancelled_eq_true_iff.mp cancelled
      exact unused token isToken isUsed
    rw [check, if_neg uncancelled, if_pos (isExpired_eq_true_iff.mpr reached)]

/-! ### Bounding -/

/-- The context may have been bounded further, and can be cancelled as before. -/
structure Tightens (context later : Context) : Prop where
  token : later.token = context.token
  deadline : ∀ deadline, context.deadline = some deadline →
    ∃ earlier, later.deadline = some earlier ∧ earlier ≤ deadline

theorem Tightens.refl (context : Context) : context.Tightens context :=
  ⟨rfl, fun deadline isDeadline => ⟨deadline, isDeadline, Nat.le_refl deadline⟩⟩

theorem Tightens.trans {first second third : Context} (left : first.Tightens second)
    (right : second.Tightens third) : first.Tightens third := by
  refine ⟨right.token.trans left.token, fun deadline isDeadline => ?_⟩
  obtain ⟨earlier, isEarlier, less⟩ := left.deadline deadline isDeadline
  obtain ⟨earliest, isEarliest, least⟩ := right.deadline earlier isEarlier
  exact ⟨earliest, isEarliest, Nat.le_trans least less⟩

theorem tightens_timeout (context : Context) (now timeout : Nat) :
    context.Tightens (context.timeout now timeout) := by
  refine ⟨rfl, fun deadline isDeadline => ⟨min deadline (now + timeout), ?_, Nat.min_le_left _ _⟩⟩
  rw [Context.timeout, isDeadline]

theorem Tightens.isExpired {context later : Context} (tightens : context.Tightens later)
    {now laterNow : Nat} (onward : now ≤ laterNow) (expired : context.isExpired now = true) :
    later.isExpired laterNow = true := by
  obtain ⟨deadline, isDeadline, reached⟩ := isExpired_eq_true_iff.mp expired
  obtain ⟨earlier, isEarlier, less⟩ := tightens.deadline deadline isDeadline
  exact isExpired_eq_true_iff.mpr
    ⟨earlier, isEarlier, Nat.le_trans less (Nat.le_trans reached onward)⟩

end Context

/-- The time at which a context is to end when it is made. -/
def Making.bound? (now : Nat) : Making → Option Nat
  | .withDeadline deadline => some deadline
  | .withTimeout timeout => some (now + timeout)
  | _ => none

/-- The token of a context that is made, if the given one is free. -/
def Making.token? (free : Token) : Making → Option Token
  | .cancellable => some free
  | _ => none

theorem Making.token?_eq_some_iff {making : Making} {free token : Token} :
    making.token? free = some token ↔ making = .cancellable ∧ token = free := by
  cases making <;> simp [token?, eq_comm]

/-- The clock, and for each context the times at which it is to end, as they were set one after the
other. -/
structure Agenda where
  now : Nat
  bounds : List (List Nat)

/-- A copy is to end when its original was to end until then. -/
def Agenda.step (agenda : Agenda) : Contexts.Act → Agenda
  | .make making =>
    { agenda with bounds := agenda.bounds ++ [(making.bound? agenda.now).toList] }
  | .copy id => { agenda with bounds := agenda.bounds ++ (agenda.bounds[id]?).toList }
  | .timeout id timeout =>
    { agenda with bounds := agenda.bounds.modify id (· ++ [agenda.now + timeout]) }
  | .advance duration => { agenda with now := agenda.now + duration }
  | _ => agenda

/-- The agenda of a sequence of acts that begins at a time. -/
def agenda (now : Nat) (acts : List Contexts.Act) : Agenda :=
  acts.foldl Agenda.step { now, bounds := [] }

namespace Contexts

variable {contexts : Contexts} {id : ContextId} {handle : HandleId} {context : Context}

theorem run_append (contexts : Contexts) (first second : List Act) :
    contexts.run (first ++ second) = (contexts.run first).run second :=
  List.foldl_append

/-- Making a context adds one, and its handle if it has one. -/
theorem make_eq (contexts : Contexts) (making : Making) :
    contexts.make making =
      { contexts with
        held := contexts.held ++
          [{ deadline := making.bound? contexts.now, token := making.token? contexts.held.length }]
        handles := contexts.handles ++
          ((making.token? contexts.held.length).map some).toList } := by
  obtain ⟨held, handles, used, now, served⟩ := contexts
  cases making <;> simp [make, hold, Making.bound?, Making.token?, Context.background,
    Context.withDeadline, Context.withTimeout, Context.cancellable]

/-- What holds at first and is kept by one more act holds after every run. -/
theorem run_invariant (kept : List Act → Contexts → Prop) (contexts : Contexts)
    (start : kept [] contexts)
    (preserved : ∀ acts act, kept acts (contexts.run acts) →
      kept (acts ++ [act]) ((contexts.run acts).step act)) (acts : List Act) :
    kept acts (contexts.run acts) := by
  induction acts using List.reverseRecOn with
  | nil => exact start
  | append_singleton acts act inductionHypothesis =>
    rw [run_append]
    exact preserved acts act inductionHypothesis

/-! ### The earliest bound -/

theorem min?_concat (bounds : List Nat) (bound : Nat) :
    (bounds ++ [bound]).min? = some (match bounds.min? with
      | some earliest => min earliest bound
      | none => bound) := by
  cases bounds with
  | nil => rfl
  | cons first rest =>
    rw [List.cons_append, List.min?_cons', List.min?_cons', List.foldl_append]
    rfl

/-- Bounding a context adds one time to those of which its deadline is the earliest. -/
theorem deadline_timeout {bounds : List Nat} (earliest : context.deadline = bounds.min?)
    (now timeout : Nat) :
    (context.timeout now timeout).deadline = (bounds ++ [now + timeout]).min? := by
  rw [min?_concat, ← earliest]
  rfl

/-- The clocks agree, and each deadline is the earliest time on the agenda. -/
structure Meets (contexts : Contexts) (agenda : Agenda) : Prop where
  now : contexts.now = agenda.now
  deadlines : contexts.held.map Context.deadline = agenda.bounds.map List.min?

theorem Meets.deadline_eq {agenda : Agenda} (meets : contexts.Meets agenda) (id : ContextId) :
    (contexts.held[id]?).map Context.deadline = (agenda.bounds[id]?).map List.min? := by
  rw [← List.getElem?_map, ← List.getElem?_map, meets.deadlines]

theorem Meets.step {agenda : Agenda} (meets : contexts.Meets agenda) (act : Act) :
    (contexts.step act).Meets (agenda.step act) := by
  obtain ⟨now, deadlines⟩ := meets
  cases act with
  | make making =>
    simp only [Contexts.step, make_eq, Agenda.step]
    refine ⟨now, ?_⟩
    rw [List.map_append, List.map_append, deadlines, ← now]
    cases making.bound? contexts.now <;> rfl
  | copy id =>
    refine ⟨now, ?_⟩
    simp only [Contexts.step, Agenda.step, List.map_append, ← Option.toList_map, deadlines]
    rw [Meets.deadline_eq ⟨now, deadlines⟩ id]
  | timeout id timeout =>
    refine ⟨now, List.ext_getElem? fun other => ?_⟩
    have same := Meets.deadline_eq ⟨now, deadlines⟩ other
    simp only [Contexts.step, Agenda.step, List.getElem?_map, List.getElem?_modify, ← now]
    cases isHeld : contexts.held[other]? with
    | none =>
      rw [isHeld] at same
      rw [Option.map_eq_none_iff.mp same.symm]
      rfl
    | some context =>
      rw [isHeld] at same
      obtain ⟨bounds, isListed, earliest⟩ := Option.map_eq_some_iff.mp same.symm
      rw [isListed]
      by_cases isOther : id = other
      · simpa [isOther] using deadline_timeout earliest.symm contexts.now timeout
      · simpa [isOther] using earliest.symm
  | advance duration => exact ⟨congrArg (· + duration) now, deadlines⟩
  | _ => exact ⟨now, deadlines⟩

theorem meets_run (now : Nat) (acts : List Act) :
    ((start now).run acts).Meets (agenda now acts) := by
  refine run_invariant (fun acts contexts => contexts.Meets (agenda now acts)) (start now)
    ⟨rfl, rfl⟩ (fun acts act meets => ?_) acts
  rw [agenda, List.foldl_append]
  exact meets.step act

/-! ### What becomes of a context -/

/-- What an act makes of a context that is there already. -/
def after (contexts : Contexts) (id : ContextId) (context : Context) : Act → Context
  | .timeout other timeout =>
    if other = id then context.timeout contexts.now timeout else context
  | _ => context

theorem held_step (isHeld : contexts.held[id]? = some context) (act : Act) :
    (contexts.step act).held[id]? = some (contexts.after id context act) := by
  have still : ∀ more, (contexts.held ++ more)[id]? = some context := by
    intro more
    rw [List.getElem?_append_left (List.getElem?_eq_some_iff.mp isHeld).1, isHeld]
  cases act with
  | make making =>
    rw [step, make_eq]
    exact still _
  | copy other => exact still _
  | timeout other timeout =>
    simp only [step, after, List.getElem?_modify, isHeld]
    split <;> rfl
  | _ => exact isHeld

theorem tightens_after (contexts : Contexts) (id : ContextId) (context : Context) (act : Act) :
    context.Tightens (contexts.after id context act) := by
  unfold after
  split
  · split
    · exact context.tightens_timeout contexts.now _
    · exact .refl context
  · exact .refl context

/-- Whatever is done, a context stays, and is bounded further at most. -/
theorem held_run (isHeld : contexts.held[id]? = some context) (acts : List Act) :
    ∃ later, (contexts.run acts).held[id]? = some later ∧ context.Tightens later := by
  refine run_invariant (fun _ later => ∃ bounded, later.held[id]? = some bounded ∧
    context.Tightens bounded) contexts ⟨context, isHeld, .refl context⟩ ?_ acts
  rintro acts act ⟨bounded, isBounded, tightens⟩
  exact ⟨_, held_step isBounded act, tightens.trans (tightens_after _ id bounded act)⟩

/-- A context that nobody bounds further stays as it is. -/
theorem held_run_of_unbounded (isHeld : contexts.held[id]? = some context) {acts : List Act}
    (unbounded : ∀ timeout, .timeout id timeout ∉ acts) :
    (contexts.run acts).held[id]? = some context := by
  refine run_invariant (fun acts later => (∀ timeout, .timeout id timeout ∉ acts) →
    later.held[id]? = some context) contexts (fun _ => isHeld) ?_ acts unbounded
  intro acts act stays unbounded
  have before := stays fun timeout member => unbounded timeout (List.mem_append_left _ member)
  rw [held_step before act, Option.some_inj]
  cases act with
  | timeout other timeout =>
    refine if_neg fun same => unbounded timeout ?_
    rw [same]
    exact List.mem_append_right _ (List.mem_singleton_self _)
  | _ => rfl

theorem now_le_run (contexts : Contexts) (acts : List Act) :
    contexts.now ≤ (contexts.run acts).now := by
  refine run_invariant (fun _ later => contexts.now ≤ later.now) contexts (Nat.le_refl _) ?_ acts
  intro acts act before
  cases act with
  | make making =>
    rw [step, make_eq]
    exact before
  | advance duration => exact Nat.le_add_right_of_le before
  | _ => exact before

/-! ### What becomes of a token -/

theorem tokenAt_run (isHeld : id < contexts.held.length) (acts : List Act) :
    (contexts.run acts).tokenAt id = contexts.tokenAt id := by
  obtain ⟨later, isLater, tightens⟩ := held_run (List.getElem?_eq_getElem isHeld) acts
  rw [tokenAt, tokenAt, isLater, List.getElem?_eq_getElem isHeld]
  exact tightens.token

theorem tokenOf_run (isHandle : handle < contexts.handles.length) {acts : List Act}
    (kept : .dropHandle handle ∉ acts) :
    (contexts.run acts).tokenOf handle = contexts.tokenOf handle := by
  have still : ∀ {handles more : List (Option Token)},
      handles[handle]? = contexts.handles[handle]? →
        (handles ++ more)[handle]? = contexts.handles[handle]? := by
    intro handles more same
    rw [List.getElem?_eq_getElem isHandle] at same
    rw [List.getElem?_append_left (List.getElem?_eq_some_iff.mp same).1, same,
      List.getElem?_eq_getElem isHandle]
  refine congrArg Option.join ?_
  refine run_invariant (fun acts later => .dropHandle handle ∉ acts →
    later.handles[handle]? = contexts.handles[handle]?) contexts (fun _ => rfl) ?_ acts kept
  intro acts act stays kept
  have before := stays fun member => kept (List.mem_append_left _ member)
  cases act with
  | make making =>
    rw [step, make_eq]
    exact still before
  | copyHandle other => exact still before
  | dropHandle other =>
    refine (List.getElem?_set_ne fun same => kept ?_).trans before
    rw [same]
    exact List.mem_append_right _ (List.mem_singleton_self _)
  | _ => exact before

/-- In this run the token was used through a handle. -/
def UsesToken (contexts : Contexts) (acts : List Act) (token : Token) : Prop :=
  ∃ before handle rest, acts = before ++ .cancel handle :: rest ∧
    (contexts.run before).tokenOf handle = some token

theorem usesToken_cons {act : Act} {rest : List Act} {token : Token} :
    contexts.UsesToken (act :: rest) token ↔
      (∃ handle, act = .cancel handle ∧ contexts.tokenOf handle = some token) ∨
        (contexts.step act).UsesToken rest token := by
  constructor
  · rintro ⟨_ | ⟨first, before⟩, handle, after, same, isToken⟩
    · exact Or.inl ⟨handle, (List.cons.inj same).1, isToken⟩
    · obtain ⟨rfl, isRest⟩ := List.cons.inj same
      exact Or.inr ⟨before, handle, after, isRest, isToken⟩
  · rintro (⟨handle, rfl, isToken⟩ | ⟨before, handle, after, rfl, isToken⟩)
    · exact ⟨[], handle, rest, rfl, isToken⟩
    · exact ⟨act :: before, handle, after, rfl, isToken⟩

theorem mem_used_step {token : Token} (act : Act) :
    token ∈ (contexts.step act).used ↔ token ∈ contexts.used ∨
      ∃ handle, act = .cancel handle ∧ contexts.tokenOf handle = some token := by
  cases act with
  | make making => simp [step, make_eq]
  | cancel handle => simp [step, or_comm]
  | _ => simp [step]

/-- The tokens that count as used are those that were used through handles. -/
theorem mem_used_run {token : Token} (acts : List Act) :
    token ∈ (contexts.run acts).used ↔
      token ∈ contexts.used ∨ contexts.UsesToken acts token := by
  induction acts generalizing contexts with
  | nil => simp [run, UsesToken]
  | cons act rest inductionHypothesis =>
    rw [usesToken_cons, ← or_assoc, ← mem_used_step]
    exact inductionHypothesis

/-! ### New tokens -/

/-- A context has the token, or a handle, or it was used. -/
def Knows (contexts : Contexts) (token : Token) : Prop :=
  (∃ context ∈ contexts.held, context.token = some token) ∨ some token ∈ contexts.handles ∨
    token ∈ contexts.used

/-- Contexts that are bounded further keep their tokens. -/
theorem exists_of_mem_modify {now timeout : Nat}
    (member : context ∈ contexts.held.modify id (·.timeout now timeout)) :
    ∃ before ∈ contexts.held, before.token = context.token := by
  obtain ⟨other, isContext⟩ := List.mem_iff_getElem?.mp member
  rw [List.getElem?_modify] at isContext
  obtain ⟨before, isBefore, rfl⟩ := Option.map_eq_some_iff.mp isContext
  refine ⟨before, List.mem_of_getElem? isBefore, ?_⟩
  split <;> rfl

theorem mem_held_step {act : Act} (isHeld : context ∈ (contexts.step act).held) :
    (∃ before ∈ contexts.held, before.token = context.token) ∨
      ∃ making, act = .make making ∧ context.token = making.token? contexts.held.length := by
  cases act with
  | make making =>
    rw [step, make_eq] at isHeld
    rcases List.mem_append.mp isHeld with member | isNew
    · exact Or.inl ⟨context, member, rfl⟩
    · exact Or.inr ⟨making, rfl, by rw [List.mem_singleton.mp isNew]⟩
  | copy id =>
    rcases List.mem_append.mp isHeld with member | isCopy
    · exact Or.inl ⟨context, member, rfl⟩
    · exact Or.inl ⟨context, List.mem_of_getElem? (Option.mem_toList.mp isCopy), rfl⟩
  | timeout id timeout => exact Or.inl (exists_of_mem_modify isHeld)
  | _ => exact Or.inl ⟨context, isHeld, rfl⟩

theorem mem_handles_step {act : Act} {token : Token}
    (isHandle : some token ∈ (contexts.step act).handles) :
    some token ∈ contexts.handles ∨
      ∃ making, act = .make making ∧ making.token? contexts.held.length = some token := by
  cases act with
  | make making =>
    rw [step, make_eq] at isHandle
    refine (List.mem_append.mp isHandle).imp_right fun isNew => ⟨making, rfl, ?_⟩
    simpa using isNew
  | copyHandle handle =>
    refine Or.inl ((List.mem_append.mp isHandle).elim id fun isCopy => ?_)
    exact List.mem_of_getElem? (Option.mem_toList.mp isCopy)
  | dropHandle handle =>
    exact Or.inl ((List.mem_or_eq_of_mem_set isHandle).resolve_right (Option.some_ne_none token))
  | _ => exact Or.inl isHandle

/-- Only a context that is made with a handle brings a token along. -/
theorem knows_step {token : Token} {act : Act} (knows : (contexts.step act).Knows token) :
    contexts.Knows token ∨ act = .make .cancellable ∧ token = contexts.held.length := by
  have made : (∃ making, act = .make making ∧
      making.token? contexts.held.length = some token) →
        act = .make .cancellable ∧ token = contexts.held.length := by
    rintro ⟨making, rfl, isToken⟩
    obtain ⟨rfl, isFree⟩ := Making.token?_eq_some_iff.mp isToken
    exact ⟨rfl, isFree⟩
  rcases knows with ⟨context, isHeld, isToken⟩ | isHandle | isUsed
  · rcases mem_held_step isHeld with ⟨before, member, same⟩ | ⟨making, isMaking, same⟩
    · exact Or.inl (Or.inl ⟨before, member, same.trans isToken⟩)
    · exact Or.inr (made ⟨making, isMaking, same.symm.trans isToken⟩)
  · exact (mem_handles_step isHandle).imp (fun member => Or.inr (Or.inl member)) made
  · rcases (mem_used_step act).mp isUsed with old | ⟨handle, -, isToken⟩
    · exact Or.inl (Or.inr (Or.inr old))
    · exact Or.inl (Or.inr (Or.inl (List.mem_of_getElem? (Option.join_eq_some_iff.mp isToken))))

theorem length_le_step (contexts : Contexts) (act : Act) :
    contexts.held.length ≤ (contexts.step act).held.length := by
  cases act with
  | make making =>
    rw [step, make_eq, List.length_append]
    exact Nat.le_add_right _ _
  | copy id =>
    rw [step, List.length_append]
    exact Nat.le_add_right _ _
  | timeout id timeout => exact Nat.le_of_eq (List.length_modify ..).symm
  | _ => exact Nat.le_refl _

/-- Tokens go by contexts that are there, and no timer lags behind the clock. -/
structure Sound (contexts : Contexts) : Prop where
  served : contexts.served = contexts.now
  known : ∀ token, contexts.Knows token → token < contexts.held.length

theorem Sound.step (sound : contexts.Sound) (act : Act) : (contexts.step act).Sound := by
  refine ⟨?_, fun token knows => ?_⟩
  · cases act with
    | make making =>
      rw [Contexts.step, make_eq]
      exact sound.served
    | advance duration => rfl
    | _ => exact sound.served
  · rcases knows_step knows with before | ⟨rfl, rfl⟩
    · exact Nat.lt_of_lt_of_le (sound.known token before) (length_le_step contexts act)
    · rw [Contexts.step, make_eq, List.length_append]
      exact Nat.lt_succ_self _

theorem sound_run (now : Nat) (acts : List Act) : ((start now).run acts).Sound := by
  refine run_invariant (fun _ contexts => contexts.Sound) (start now) ⟨rfl, ?_⟩
    (fun _ act sound => sound.step act) acts
  rintro token (⟨_, member, -⟩ | member | member) <;> cases member

/-! ### Asking for the state of a context -/

theorem isExpired_iff :
    contexts.isExpired id = true ↔
      ∃ deadline, contexts.deadline? id = some deadline ∧ deadline ≤ contexts.now := by
  unfold isExpired deadline?
  cases contexts.held[id]? with
  | none => simp
  | some context => exact Context.isExpired_eq_true_iff

theorem isCancelled_eq (contexts : Contexts) (id : ContextId) :
    contexts.isCancelled id = (contexts.tokenAt id).any contexts.used.contains := by
  unfold isCancelled tokenAt
  cases contexts.held[id]? <;> rfl

theorem isCancelled_iff :
    contexts.isCancelled id = true ↔
      ∃ token, contexts.tokenAt id = some token ∧ token ∈ contexts.used := by
  simp [isCancelled_eq, Option.any_eq_true]

/-- Whether handles of a token are left makes no difference to a wait. -/
theorem wait_eq_signal (contexts : Contexts) (context : Context) :
    contexts.wait context = context.signal contexts.used contexts.served := by
  unfold wait Context.signal Context.cancelSignal newsOf
  cases context.token with
  | none => rfl
  | some token =>
    rw [Option.bind_some]
    by_cases isUsed : token ∈ contexts.used
    · simp [isUsed]
    · by_cases isHandle : some token ∈ contexts.handles <;> simp [isUsed, isHandle]

/-! ### Ended for good -/

/-- Who shares a token with whom. A context that is made with a handle shares with that handle a
token that nobody else has had; copies share the tokens of their originals; and whatever is done,
nobody's token changes until the handle is dropped. -/
structure SharesTokens (contexts : Contexts) : Prop where
  fresh : ¬contexts.Knows contexts.held.length
  made : ∀ making, (contexts.step (.make making)).tokenAt contexts.held.length =
    making.token? contexts.held.length
  madeHandle : (contexts.step (.make .cancellable)).tokenOf contexts.handles.length =
    some contexts.held.length
  copied : ∀ id, (contexts.step (.copy id)).tokenAt contexts.held.length = contexts.tokenAt id
  copiedHandle : ∀ handle, (contexts.step (.copyHandle handle)).tokenOf contexts.handles.length =
    contexts.tokenOf handle
  kept : ∀ rest id, id < contexts.held.length →
    (contexts.run rest).tokenAt id = contexts.tokenAt id
  keptByHandle : ∀ rest handle, handle < contexts.handles.length → .dropHandle handle ∉ rest →
    (contexts.run rest).tokenOf handle = contexts.tokenOf handle

/-- Deadlines only move towards the present. Whatever has ended, with all that shares its deadline
or its token, has ended still. -/
structure StaysEnded (contexts later : Contexts) : Prop where
  deadline : ∀ id deadline, contexts.deadline? id = some deadline →
    ∃ earlier, later.deadline? id = some earlier ∧ earlier ≤ deadline
  expired : ∀ id other, contexts.deadline? other = contexts.deadline? id →
    contexts.isExpired id = true → later.isExpired other = true
  cancelled : ∀ id other, contexts.tokenAt other = contexts.tokenAt id →
    contexts.isCancelled id = true → later.isCancelled other = true

theorem Sound.sharesTokens (sound : contexts.Sound) : contexts.SharesTokens where
  fresh := fun knows => Nat.lt_irrefl _ (sound.known _ knows)
  made := by
    intro making
    rw [Contexts.step, make_eq, tokenAt, List.getElem?_concat_length]
    rfl
  madeHandle := by
    rw [Contexts.step, make_eq, tokenOf]
    exact congrArg Option.join List.getElem?_concat_length
  copied := by
    intro id
    cases isHeld : contexts.held[id]? <;> simp [tokenAt, Contexts.step, isHeld]
  copiedHandle := by
    intro handle
    cases isHandle : contexts.handles[handle]? <;> simp [tokenOf, Contexts.step, isHandle]
  kept := fun rest _ isHeld => tokenAt_run isHeld rest
  keptByHandle := fun _ _ isHandle kept => tokenOf_run isHandle kept

/-- What has ended stays so in every run. -/
theorem staysEnded_run (contexts : Contexts) (rest : List Act) :
    contexts.StaysEnded (contexts.run rest) where
  deadline := by
    intro id deadline isDeadline
    obtain ⟨context, isHeld, same⟩ := Option.bind_eq_some_iff.mp isDeadline
    obtain ⟨later, isLater, tightens⟩ := held_run isHeld rest
    obtain ⟨earlier, isEarlier, less⟩ := tightens.deadline deadline same
    exact ⟨earlier, by rw [deadline?, isLater, Option.bind_some, isEarlier], less⟩
  expired := by
    intro id other sameDeadline expired
    obtain ⟨deadline, isDeadline, reached⟩ := isExpired_iff.mp expired
    obtain ⟨context, isHeld, same⟩ := Option.bind_eq_some_iff.mp (sameDeadline.trans isDeadline)
    obtain ⟨later, isLater, tightens⟩ := held_run isHeld rest
    obtain ⟨earlier, isEarlier, less⟩ := tightens.deadline deadline same
    refine isExpired_iff.mpr ⟨earlier, by rw [deadline?, isLater, Option.bind_some, isEarlier], ?_⟩
    exact Nat.le_trans less (Nat.le_trans reached (now_le_run contexts rest))
  cancelled := by
    intro id other sameToken cancelled
    obtain ⟨token, isToken, isUsed⟩ := isCancelled_iff.mp cancelled
    obtain ⟨context, isHeld, -⟩ := Option.bind_eq_some_iff.mp (sameToken.trans isToken)
    have isThere := (List.getElem?_eq_some_iff.mp isHeld).1
    refine isCancelled_iff.mpr ⟨token, ?_, (mem_used_run rest).mpr (Or.inl isUsed)⟩
    rw [tokenAt_run isThere rest, sameToken, isToken]

/-- A copy has the deadline that its original had, and keeps it until it is bounded itself. -/
theorem deadline?_copy (contexts : Contexts) {rest : List Act}
    (isHeld : id < contexts.held.length)
    (unbounded : ∀ timeout, .timeout contexts.held.length timeout ∉ rest) :
    ((contexts.step (.copy id)).run rest).deadline? contexts.held.length =
      contexts.deadline? id := by
  have isCopy : (contexts.step (.copy id)).held[contexts.held.length]? =
      some contexts.held[id] := by
    simp [step, List.getElem?_eq_getElem isHeld]
  rw [deadline?, deadline?, held_run_of_unbounded isCopy unbounded,
    List.getElem?_eq_getElem isHeld]

theorem orTimeout_of_deadline {deadline : Nat} (isDeadline : context.deadline = some deadline)
    (now : Nat) (timeout : Option Nat) : context.orTimeout now timeout = context := by
  cases timeout with
  | none => rfl
  | some timeout => simp [Context.orTimeout, isDeadline]

/-- In any run the deadline of a context is the earliest of the times on the agenda, and the context
has expired once the clock has reached it. Contexts and handles with one token agree on whether they
were cancelled, which they were exactly if that token was used. Whatever has ended stays so, a copy
keeps its deadline, and a default timeout counts only where there is no deadline. A wait comes back
at once exactly if a look finds a reason, with the same one, and a cancellation comes first. -/
theorem contexts_end_for_good (now : Nat) (acts : List Act) {contexts : Contexts}
    (reached : (start now).run acts = contexts) :
    (∀ id, contexts.deadline? id = ((agenda now acts).bounds[id]?).bind List.min?) ∧
      (∀ id, contexts.isExpired id = true ↔ ∃ deadline,
        contexts.deadline? id = some deadline ∧ deadline ≤ (agenda now acts).now) ∧
      contexts.SharesTokens ∧
      (∀ id other, contexts.tokenAt id = contexts.tokenAt other →
        contexts.isCancelled id = contexts.isCancelled other) ∧
      (∀ id handle token, contexts.tokenAt id = some token → contexts.tokenOf handle = some token →
        contexts.handleIsCancelled? handle = some (contexts.isCancelled id)) ∧
      (∀ id, contexts.isCancelled id = true ↔
        ∃ token, contexts.tokenAt id = some token ∧ (start now).UsesToken acts token) ∧
      (∀ rest, contexts.StaysEnded (contexts.run rest)) ∧
      (∀ id rest, id < contexts.held.length →
        (∀ timeout, .timeout contexts.held.length timeout ∉ rest) →
          ((contexts.step (.copy id)).run rest).deadline? contexts.held.length =
            contexts.deadline? id) ∧
      (∀ (context : Context) timeout,
        (∀ deadline, context.deadline = some deadline →
          context.orTimeout contexts.now timeout = context) ∧
        (context.orTimeout contexts.now timeout).deadline =
          context.deadline.or (timeout.map fun timeout => contexts.now + timeout)) ∧
      ∀ context : Context, contexts.wait context = context.check contexts.used contexts.now ∧
        ∀ ending, context.check contexts.used contexts.now = some ending ↔
          context.EndedBy contexts.used contexts.now ending := by
  have meets := meets_run now acts
  have sound := sound_run now acts
  have isUsed : ∀ token, token ∈ contexts.used ↔ (start now).UsesToken acts token := by
    intro token
    rw [← reached, mem_used_run]
    exact or_iff_right List.not_mem_nil
  rw [reached] at meets sound
  refine ⟨fun id => ?_, fun id => ?_, sound.sharesTokens, fun id other same => ?_,
    fun id handle token isToken isHandle => ?_, fun id => ?_, contexts.staysEnded_run,
    fun id rest isHeld unbounded => contexts.deadline?_copy isHeld unbounded,
    fun context timeout => ⟨fun deadline isDeadline => ?_, ?_⟩, fun context => ⟨?_, ?_⟩⟩
  · have earliest := congrArg Option.join (meets.deadline_eq id)
    rwa [← Option.bind_id_eq_join, ← Option.bind_id_eq_join, Option.bind_map,
      Option.bind_map] at earliest
  · rw [← meets.now]
    exact isExpired_iff
  · rw [isCancelled_eq, isCancelled_eq, same]
  · rw [handleIsCancelled?, isHandle, isCancelled_eq, isToken]
    rfl
  · rw [isCancelled_iff]
    simp only [isUsed]
  · exact orTimeout_of_deadline isDeadline contexts.now timeout
  · exact context.deadline_orTimeout contexts.now timeout
  · rw [wait_eq_signal, sound.served, Context.signal_eq_check]
  · exact fun ending => Context.check_eq_some_iff

/-- An agent makes a context with a handle, gives it ten milliseconds, hands out a copy, and is in a
hurry then. Having waited, it gives up and drops the handle. -/
def hurrying : List Act :=
  [.make .cancellable, .timeout 0 10, .copy 0, .timeout 0 3, .advance 4, .cancel 0, .dropHandle 0]

/-- The context ends after three milliseconds and the copy would have after ten, but both are
cancelled then. -/
theorem contexts_end_for_good_hurrying :
    ((start 5).run hurrying).deadline? 0 = some 8 ∧
      ((start 5).run hurrying).deadline? 1 = some 15 ∧
      ((start 5).run hurrying).isExpired 0 = true ∧
      ((start 5).run hurrying).isExpired 1 = false ∧
      ((start 5).run hurrying).isCancelled 1 = true ∧
      ((start 5).run hurrying).wait { deadline := some 8, token := some 0 } = some .cancelled := by
  obtain ⟨deadline, expired, -, -, -, cancelled, -, -, -, ends⟩ :=
    contexts_end_for_good 5 hurrying rfl
  have used : (start 5).UsesToken hurrying 0 :=
    ⟨[.make .cancellable, .timeout 0 10, .copy 0, .timeout 0 3, .advance 4], 0, [.dropHandle 0],
      rfl, rfl⟩
  have second := (deadline 1).trans (show _ = some 15 by decide)
  refine ⟨(deadline 0).trans (by decide), second, (expired 0).mpr ⟨8, by decide, by decide⟩, ?_,
    (cancelled 1).mpr ⟨0, by decide, used⟩, (ends _).1.trans (((ends _).2 _).mpr ?_)⟩
  · refine Bool.eq_false_iff.mpr fun isExpired => ?_
    obtain ⟨_, isDeadline, reached⟩ := (expired 1).mp isExpired
    obtain rfl := Option.some_inj.mp (second.symm.trans isDeadline)
    exact absurd reached (by decide)
  · exact ⟨0, rfl, by decide⟩

end Contexts

end OperatorDesk
