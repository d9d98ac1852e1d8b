import Mathlib.Data.List.Basic
import Mathlib.Logic.Function.Basic
import SignalRelay.Events.Handlers

namespace SignalRelay

/-!
# Whom an emission calls

Emissions nest: while one calls its handlers, these subscribe others and emit further events.
What keeps all emissions apart is what each of them still owes: the calls of the handlers that
were subscribed when it began, less those that it has made.  `Handlers.Orderly` says so at every
moment; every single thing that happens preserves it, and so does a whole emission, which begins
with everything to call and ends with nothing.
-/

namespace Occurrence

variable {ν ε : Type}

/-- The position of the handler that was subscribed. -/
def subscribed? : Occurrence ν ε → Option Nat
  | .subscribed position => some position
  | .began .. | .called .. => none

/-- The number of the emission that began. -/
def began? : Occurrence ν ε → Option Nat
  | .began emission _ => some emission
  | .subscribed _ | .called .. => none

/-- What an emission called: the handler's position and its name, and the event. -/
def calledBy? (emission : Nat) : Occurrence ν ε → Option (Nat × ν × ε)
  | .called number position name event =>
      if number = emission then some (position, name, event) else none
  | .subscribed _ | .began .. => none

end Occurrence

namespace Handlers

variable {ν ε : Type}

/-- The positions of the handlers that were subscribed, in order. -/
def subscriptions (history : List (Occurrence ν ε)) : List Nat :=
  history.filterMap Occurrence.subscribed?

/-- The numbers of the emissions that began, in order. -/
def beginnings (history : List (Occurrence ν ε)) : List Nat :=
  history.filterMap Occurrence.began?

/-- What an emission called, in order. -/
def callsBy (emission : Nat) (history : List (Occurrence ν ε)) : List (Nat × ν × ε) :=
  history.filterMap (Occurrence.calledBy? emission)

/-- The calls of handlers for an event, in their order; the first stands at a position. -/
def due (event : ε) (position : Nat) (subscribers : List (Handler ν ε)) : List (Nat × ν × ε) :=
  (subscribers.zipIdx position).map fun handler => (handler.2, handler.1.name, event)

/-- Handlers stand where they were subscribed, emissions are numbered as they began, and what an
emission has called with what it owes are the handlers that were subscribed when it began. -/
structure Orderly (owed : Nat → List (Nat × ν × ε)) (handlers : Handlers ν ε) : Prop where
  subscribed : subscriptions handlers.history = List.range handlers.size
  begun : beginnings handlers.history = List.range handlers.emissions
  /-- An emission that has not begun has called nobody and owes nothing. -/
  unbegun :
    ∀ emission,
      handlers.emissions ≤ emission →
      callsBy emission handlers.history = [] ∧ owed emission = []
  called :
    ∀ earlier emission event later,
      handlers.history = earlier ++ .began emission event :: later →
      callsBy emission earlier = [] ∧
        callsBy emission later ++ owed emission =
          due event 0 (handlers.subscribers.take (subscriptions earlier).length)

variable {owed : Nat → List (Nat × ν × ε)} {handlers : Handlers ν ε}

/-! ## What happens, one thing at a time -/

/-- A list with one more at its end is split where the list is, or at its end. -/
theorem split_concat
    {α : Type}
    {list earlier later : List α}
    {last mark : α}
    (split : list ++ [last] = earlier ++ mark :: later) :
    (earlier = list ∧ mark = last ∧ later = []) ∨
      ∃ before, later = before ++ [last] ∧ list = earlier ++ mark :: before := by
  rcases List.eq_nil_or_concat' later with rfl | ⟨before, final, rfl⟩
  · obtain ⟨same, isLast⟩ := List.append_inj' split rfl
    cases isLast
    exact .inl ⟨same.symm, rfl, rfl⟩
  · rw [← List.cons_append, ← List.append_assoc] at split
    obtain ⟨same, isLast⟩ := List.append_inj' split rfl
    cases isLast
    exact .inr ⟨before, rfl, same⟩

/-! What a history tells when one thing more has happened. -/

theorem subscriptions_concat
    (history : List (Occurrence ν ε))
    (last : Occurrence ν ε) :
    subscriptions (history ++ [last]) = subscriptions history ++ last.subscribed?.toList := by
  rw [subscriptions, List.filterMap_append]
  cases last <;> rfl

theorem beginnings_concat
    (history : List (Occurrence ν ε))
    (last : Occurrence ν ε) :
    beginnings (history ++ [last]) = beginnings history ++ last.began?.toList := by
  rw [beginnings, List.filterMap_append]
  cases last <;> rfl

theorem callsBy_concat
    (emission : Nat)
    (history : List (Occurrence ν ε))
    (last : Occurrence ν ε) :
    callsBy emission (history ++ [last]) =
      callsBy emission history ++ (last.calledBy? emission).toList := by
  rw [callsBy, List.filterMap_append, List.filterMap_cons]
  cases last.calledBy? emission <;> rfl

theorem mem_callsBy_iff
    {emission position : Nat}
    {name : ν}
    {event : ε}
    {history : List (Occurrence ν ε)} :
    (position, name, event) ∈ callsBy emission history ↔
      .called emission position name event ∈ history := by
  rw [callsBy, List.mem_filterMap]
  constructor
  · rintro ⟨occurrence, member, calls⟩
    cases occurrence with
    | subscribed | began => cases calls
    | called =>
        obtain ⟨rfl, same⟩ := Option.ite_none_right_eq_some.mp calls
        cases same
        exact member
  · intro member
    exact ⟨_, member, if_pos rfl⟩

/-- A call is due to each handler, by its position. -/
theorem mem_due_iff
    {event : ε}
    {subscribers : List (Handler ν ε)}
    {position : Nat}
    {name : ν} :
    (position, name, event) ∈ due event 0 subscribers ↔
      ∃ handler, subscribers[position]? = some handler ∧ handler.name = name := by
  simp only [due, List.mem_map, Prod.exists, List.mem_zipIdx_iff_getElem?, Prod.mk.injEq]
  constructor
  · rintro ⟨handler, _, found, rfl, sameName, -⟩
    exact ⟨handler, found, sameName⟩
  · rintro ⟨handler, found, sameName⟩
    exact ⟨handler, position, found, rfl, sameName, trivial⟩

/-- The calls of one emission say nothing of those of another. -/
theorem callsBy_concat_other
    {emission number : Nat}
    (different : number ≠ emission)
    (history : List (Occurrence ν ε))
    (position : Nat)
    (name : ν)
    (event : ε) :
    callsBy emission (history ++ [.called number position name event]) =
      callsBy emission history := by
  rw [callsBy_concat, Occurrence.calledBy?, if_neg different]
  exact List.append_nil _

namespace Orderly

/-- At every moment handlers stand where they were subscribed. -/
theorem subscriptions_of_split
    (orderly : Orderly owed handlers)
    {earlier later : List (Occurrence ν ε)}
    (split : handlers.history = earlier ++ later) :
    (subscriptions earlier).length ≤ handlers.subscribers.length ∧
      subscriptions earlier = List.range (subscriptions earlier).length := by
  have all := orderly.subscribed
  rw [split, subscriptions, List.filterMap_append, ← subscriptions] at all
  have inBounds : (subscriptions earlier).length ≤ handlers.size := by
    have lengths := congrArg List.length all
    rw [List.length_range, List.length_append] at lengths
    exact Nat.le.intro lengths
  refine ⟨inBounds, ?_⟩
  have front := congrArg (List.take (subscriptions earlier).length) all
  rwa [List.take_left, List.take_range, Nat.min_eq_left inBounds] at front

/-- Emissions are numbered from zero. -/
theorem lt_of_began
    (orderly : Orderly owed handlers)
    {emission : Nat}
    {event : ε}
    (began : .began emission event ∈ handlers.history) :
    emission < handlers.emissions := by
  rw [← List.mem_range, ← orderly.begun]
  exact List.mem_filterMap.mpr ⟨_, began, rfl⟩

theorem start : Orderly (fun _ => []) (empty : Handlers ν ε) where
  subscribed := rfl
  begun := rfl
  unbegun := fun _ _ => ⟨rfl, rfl⟩
  called := by
    intro earlier emission event later split
    exact absurd split.symm (by simp [empty])

/-- A handler that is subscribed is owed a call by no emission that has begun. -/
theorem subscribe
    (orderly : Orderly owed handlers)
    (handler : Handler ν ε) :
    Orderly owed (handlers.subscribe handler) where
  subscribed := by
    rw [Handlers.subscribe, subscriptions_concat, orderly.subscribed]
    simp [size, Occurrence.subscribed?, List.range_succ]
  begun := by
    rw [Handlers.subscribe, beginnings_concat, orderly.begun]
    exact List.append_nil _
  unbegun := by
    intro emission notBegun
    obtain ⟨noCalls, nothing⟩ := orderly.unbegun emission notBegun
    refine ⟨?_, nothing⟩
    rw [Handlers.subscribe, callsBy_concat, noCalls]
    rfl
  called := by
    intro earlier emission event later split
    rcases split_concat split with ⟨-, isLast, -⟩ | ⟨before, rfl, within⟩
    · cases isLast
    · obtain ⟨noCalls, calls⟩ := orderly.called earlier emission event before within
      have inBounds := (orderly.subscriptions_of_split within).1
      rw [callsBy_concat, Handlers.subscribe, List.take_append_of_le_length inBounds, ← calls]
      exact ⟨noCalls, congrArg (· ++ owed emission) (List.append_nil _)⟩

/-- An emission that begins owes a call to every handler. -/
theorem begin
    (orderly : Orderly owed handlers)
    (event : ε) :
    Orderly (Function.update owed handlers.emissions (due event 0 handlers.subscribers))
      (handlers.begin event) where
  subscribed := by
    rw [Handlers.begin, subscriptions_concat, orderly.subscribed]
    exact List.append_nil _
  begun := by
    rw [Handlers.begin, beginnings_concat, orderly.begun]
    exact List.range_succ.symm
  unbegun := by
    intro emission notBegun
    have later : handlers.emissions < emission := notBegun
    obtain ⟨noCalls, nothing⟩ := orderly.unbegun emission (Nat.le_of_lt later)
    rw [Function.update_of_ne (Nat.ne_of_gt later), Handlers.begin, callsBy_concat, noCalls]
    exact ⟨rfl, nothing⟩
  called := by
    intro earlier emission other later split
    rcases split_concat split with ⟨rfl, isLast, rfl⟩ | ⟨before, rfl, within⟩
    · cases isLast
      obtain ⟨noCalls, -⟩ := orderly.unbegun handlers.emissions (Nat.le_refl _)
      have all : (subscriptions handlers.history).length = handlers.subscribers.length := by
        rw [orderly.subscribed, List.length_range, size]
      rw [Function.update_self, Handlers.begin, all, List.take_length]
      exact ⟨noCalls, rfl⟩
    · obtain ⟨noCalls, calls⟩ := orderly.called earlier emission other before within
      have known : emission < handlers.emissions :=
        orderly.lt_of_began (within ▸ List.mem_append_right _ List.mem_cons_self)
      rw [Function.update_of_ne (Nat.ne_of_lt known), callsBy_concat, Handlers.begin, ← calls]
      exact ⟨noCalls, congrArg (· ++ owed emission) (List.append_nil _)⟩

/-- An emission that calls the first handler that it owes a call owes the others theirs. -/
theorem noteCall
    (orderly : Orderly owed handlers)
    {emission position : Nat}
    {name : ν}
    {event : ε}
    {rest : List (Nat × ν × ε)}
    (owes : owed emission = (position, name, event) :: rest) :
    Orderly (Function.update owed emission rest)
      (handlers.noteCall emission position name event) where
  subscribed := by
    rw [Handlers.noteCall, subscriptions_concat, orderly.subscribed]
    exact List.append_nil _
  begun := by
    rw [Handlers.noteCall, beginnings_concat, orderly.begun]
    exact List.append_nil _
  unbegun := by
    intro other notBegun
    obtain ⟨noCalls, nothing⟩ := orderly.unbegun other notBegun
    have different : other ≠ emission := by
      rintro rfl
      rw [owes] at nothing
      cases nothing
    rw [Function.update_of_ne different, Handlers.noteCall, callsBy_concat_other different.symm]
    exact ⟨noCalls, nothing⟩
  called := by
    intro earlier other otherEvent later split
    rcases split_concat split with ⟨-, isLast, -⟩ | ⟨before, rfl, within⟩
    · cases isLast
    · obtain ⟨noCalls, calls⟩ := orderly.called earlier other otherEvent before within
      refine ⟨noCalls, Eq.trans ?_ calls⟩
      by_cases same : other = emission
      · subst same
        rw [Function.update_self, owes, callsBy_concat, Occurrence.calledBy?, if_pos rfl,
          List.append_assoc]
        rfl
      · rw [Function.update_of_ne same, callsBy_concat_other (Ne.symm same)]

end Orderly

/-! ## Whole emissions -/

/-- What emissions, and handlers that emit, do to a list: it only grows, and whatever was owed is
owed. -/
structure Keeps (before after : Handlers ν ε) : Prop where
  subscribers : before.subscribers <+: after.subscribers
  emissions : before.emissions ≤ after.emissions
  orderly :
    ∀ owed,
      Orderly owed before →
      Orderly owed after

namespace Keeps

theorem refl
    (handlers : Handlers ν ε) :
    Keeps handlers handlers :=
  ⟨List.prefix_rfl, Nat.le_refl _, fun _ => id⟩

theorem trans
    {first second third : Handlers ν ε}
    (earlier : Keeps first second)
    (later : Keeps second third) :
    Keeps first third where
  subscribers := earlier.subscribers.trans later.subscribers
  emissions := Nat.le_trans earlier.emissions later.emissions
  orderly := fun owed => later.orderly owed ∘ earlier.orderly owed

end Keeps

variable {emission position : Nat} {event : ε} {before after : Handlers ν ε}

theorem keeps_perform
    {emit : ε → Handlers ν ε → Option (Handlers ν ε)}
    (keeps : ∀ {event before after}, emit event before = some after → Keeps before after)
    {reactions : List (Reaction ν ε)}
    (performed : perform emit reactions before = some after) :
    Keeps before after := by
  induction reactions generalizing before with
  | nil =>
      cases performed
      exact .refl _
  | cons reaction later inductionHypothesis =>
      cases reaction with
      | subscribe handler =>
          have subscribed : Keeps before (before.subscribe handler) :=
            ⟨List.prefix_append _ _, Nat.le_refl _, fun _ orderly => orderly.subscribe handler⟩
          exact subscribed.trans (inductionHypothesis performed)
      | emit event =>
          obtain ⟨between, emitted, performed⟩ := Option.bind_eq_some_iff.mp performed
          exact (keeps emitted).trans (inductionHypothesis performed)

/-- An emission that calls all that it owes owes nothing at the end. -/
theorem keeps_callFrom
    {emit : ε → Handlers ν ε → Option (Handlers ν ε)}
    (keeps : ∀ {event before after}, emit event before = some after → Keeps before after)
    {subscribers : List (Handler ν ε)}
    (called : callFrom emit emission event position subscribers before = some after) :
    before.subscribers <+: after.subscribers ∧
      before.emissions ≤ after.emissions ∧
      ∀ owed,
        owed emission = due event position subscribers →
        Orderly owed before →
        Orderly (Function.update owed emission []) after := by
  induction subscribers generalizing position before with
  | nil =>
      cases called
      refine ⟨List.prefix_rfl, Nat.le_refl _, fun owed owes orderly => ?_⟩
      rwa [Function.update_eq_self_iff.mpr owes.symm]
  | cons handler later inductionHypothesis =>
      obtain ⟨between, performed, called⟩ := Option.bind_eq_some_iff.mp called
      have kept := keeps_perform keeps performed
      obtain ⟨grown, more, ended⟩ := inductionHypothesis called
      refine ⟨kept.subscribers.trans grown, Nat.le_trans kept.emissions more,
        fun owed owes orderly => ?_⟩
      have noted := orderly.noteCall owes
      have rest := ended _ (Function.update_self ..) (kept.orderly _ noted)
      rwa [Function.update_idem] at rest

theorem keeps_emit
    {depth : Nat}
    (emitted : emit depth event before = some after) :
    Keeps before after := by
  induction depth generalizing event before after with
  | zero => cases emitted
  | succ depth inductionHypothesis =>
      obtain ⟨grown, more, ended⟩ := keeps_callFrom inductionHypothesis emitted
      refine ⟨grown, Nat.le_trans (Nat.le_succ _) more, fun owed orderly => ?_⟩
      have called := ended _ (Function.update_self ..) (orderly.begin event)
      obtain ⟨-, nothing⟩ := orderly.unbegun before.emissions (Nat.le_refl _)
      rwa [Function.update_idem, Function.update_eq_self_iff.mpr nothing.symm] at called

/-! ## How deep emissions nest -/

theorem perform_mono
    {shallow deep : ε → Handlers ν ε → Option (Handlers ν ε)}
    (deeper : ∀ {event before after},
      shallow event before = some after → deep event before = some after)
    {reactions : List (Reaction ν ε)}
    (performed : perform shallow reactions before = some after) :
    perform deep reactions before = some after := by
  induction reactions generalizing before with
  | nil => exact performed
  | cons reaction later inductionHypothesis =>
      cases reaction with
      | subscribe handler => exact inductionHypothesis performed
      | emit event =>
          obtain ⟨between, emitted, performed⟩ := Option.bind_eq_some_iff.mp performed
          exact Option.bind_eq_some_iff.mpr
            ⟨between, deeper emitted, inductionHypothesis performed⟩

theorem callFrom_mono
    {shallow deep : ε → Handlers ν ε → Option (Handlers ν ε)}
    (deeper : ∀ {event before after},
      shallow event before = some after → deep event before = some after)
    {subscribers : List (Handler ν ε)}
    (called : callFrom shallow emission event position subscribers before = some after) :
    callFrom deep emission event position subscribers before = some after := by
  induction subscribers generalizing position before with
  | nil => exact called
  | cons handler later inductionHypothesis =>
      obtain ⟨between, performed, called⟩ := Option.bind_eq_some_iff.mp called
      exact Option.bind_eq_some_iff.mpr
        ⟨between, perform_mono deeper performed, inductionHypothesis called⟩

/-- Where emissions may nest more deeply, an emission that ends ends as before. -/
theorem emit_mono
    {depth more : Nat}
    (emitted : emit depth event before = some after)
    (deeper : depth ≤ more) :
    emit more event before = some after := by
  induction depth generalizing event before after more with
  | zero => cases emitted
  | succ depth inductionHypothesis =>
      cases more with
      | zero => exact absurd deeper (Nat.not_succ_le_zero depth)
      | succ more =>
          exact callFrom_mono
            (fun inner => inductionHypothesis inner (Nat.le_of_succ_le_succ deeper)) emitted

/-! ## Whole runs -/

/--
Whatever handlers are subscribed and whatever is emitted, one after another, and whatever handlers
subscribe and emit in turn when they are called: if all emissions end, it does not matter how
deeply they may nest.  Handlers stand in the order in which they were subscribed, so that there are
as many as were subscribed, and more only ever come behind them.  Each emission, nested or not,
calls the handlers that were subscribed before it began, each once and in this order, and no
others; and it calls nobody before it begins.
-/
theorem emissions_call_earlier_subscribers
    {depth : Nat}
    {acts : List (Reaction ν ε)}
    {handlers : Handlers ν ε}
    (run : perform (emit depth) acts empty = some handlers) :
    (∀ more, depth ≤ more → perform (emit more) acts empty = some handlers) ∧
      subscriptions handlers.history = List.range handlers.size ∧
      beginnings handlers.history = List.range handlers.emissions ∧
      (∀ earlier emission event later,
        handlers.history = earlier ++ .began emission event :: later →
        callsBy emission earlier = [] ∧
          callsBy emission later =
            due event 0 (handlers.subscribers.take (subscriptions earlier).length) ∧
          ∀ position,
            .subscribed position ∈ earlier →
            ∃ handler,
              handlers.subscribers[position]? = some handler ∧
                .called emission position handler.name event ∈ later) ∧
      ∀ later after,
        perform (emit depth) later handlers = some after →
        handlers.subscribers <+: after.subscribers := by
  have orderly := (keeps_perform keeps_emit run).orderly _ .start
  refine ⟨fun more deeper => perform_mono (fun inner => emit_mono inner deeper) run,
    orderly.subscribed, orderly.begun, fun earlier emission event later split => ?_,
    fun later after performed => (keeps_perform keeps_emit performed).subscribers⟩
  obtain ⟨noCalls, calls⟩ := orderly.called earlier emission event later split
  rw [List.append_nil] at calls
  refine ⟨noCalls, calls, fun position subscribed => ?_⟩
  obtain ⟨inBounds, positions⟩ := orderly.subscriptions_of_split split
  have early : position < (subscriptions earlier).length := by
    rw [← List.mem_range, ← positions]
    exact List.mem_filterMap.mpr ⟨_, subscribed, rfl⟩
  have found : (handlers.subscribers.take (subscriptions earlier).length)[position]? =
      some handlers.subscribers[position] := by
    rw [List.getElem?_take_of_lt early, List.getElem?_eq_getElem]
  refine ⟨_, List.getElem?_eq_getElem (Nat.lt_of_lt_of_le early inBounds), ?_⟩
  rw [← mem_callsBy_iff, calls, mem_due_iff]
  exact ⟨_, found, rfl⟩

/-- An inner emission calls a handler that the outer one, which has begun before it was subscribed,
does not. -/
theorem emissions_call_earlier_subscribers_nested :
    ∃ (handlers : Handlers String String)
        (before between after : List (Occurrence String String)),
      perform (emit 2)
          [.subscribe (.subscribing "adds" "added"), .subscribe (.echoing "echoes" "echo"),
            .emit "first"]
          empty = some handlers ∧
        handlers.history =
          before ++ .began 0 "first" :: between ++ .began 1 "echo" :: after ∧
        callsBy 0 (between ++ .began 1 "echo" :: after) =
          [(0, "adds", "first"), (1, "echoes", "first")] ∧
        callsBy 1 after =
          [(0, "adds", "echo"), (1, "echoes", "echo"), (2, "added", "echo")] ∧
        subscriptions handlers.history = List.range handlers.size := by
  obtain ⟨handlers, run⟩ : ∃ handlers : Handlers String String,
      perform (emit 2)
        [.subscribe (.subscribing "adds" "added"), .subscribe (.echoing "echoes" "echo"),
          .emit "first"]
        empty = some handlers :=
    ⟨_, rfl⟩
  obtain ⟨-, subscribed, -, calls, -⟩ := emissions_call_earlier_subscribers run
  let between : List (Occurrence String String) :=
    [.called 0 0 "adds" "first", .subscribed 2, .called 0 1 "echoes" "first"]
  let after : List (Occurrence String String) :=
    [.called 1 0 "adds" "echo", .subscribed 3, .called 1 1 "echoes" "echo",
      .called 1 2 "added" "echo"]
  have split : handlers.history =
      [.subscribed 0, .subscribed 1] ++ .began 0 "first" :: between ++
        .began 1 "echo" :: after := by
    cases run
    rfl
  obtain ⟨-, outer, -⟩ := calls [.subscribed 0, .subscribed 1] 0 "first" _ split
  obtain ⟨-, inner, -⟩ :=
    calls ([.subscribed 0, .subscribed 1] ++ .began 0 "first" :: between) 1 "echo" _ split
  refine ⟨handlers, _, between, after, run, split, outer.trans ?_, inner.trans ?_, subscribed⟩
  all_goals
    cases run
    rfl

end Handlers

end SignalRelay
