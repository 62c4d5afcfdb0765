import LanguageClient.Focus
import Mathlib.Data.List.Induction

/-!
# What the focus follows

The focus is moved by five kinds of calls, and each of them does one of four things: it focuses a
path, with or without a document; it clears the path; it closes the document that is tracked; or it
is ignored. Which of these it does is said here of the call alone, apart from closing, which
concerns only the document that is tracked.

A document is tracked after some calls exactly if one of them installed it together with a path,
while it was open, and every call since then was ignored or cleared the path while the document was
still open.
-/

namespace LanguageClient

/-- A list holds a snapshot of the same document. -/
theorem Document.isAmong_iff {document : Document} {documents : List Document} :
    document.isAmong documents = true ↔ ∃ other ∈ documents, other.uri = document.uri := by
  simp [isAmong]

/-- A call of the tracker, with everything that it is given. -/
inductive FocusCall where
  | initial (active : Option Document) (visible opened : List Document)
  | activeChanged (active : Option Document) (opened : List Document)
  | documentOpened (document : Document) (active : Option Document) (opened : List Document)
  | documentClosed (document : Document)
  | activatePath (document : Option Document) (path : Option String) (opened : List Document)
deriving DecidableEq, Repr

namespace FocusCall

/-- The documents that a call reports as open. Closing reports none. -/
def opened : FocusCall → List Document
  | .initial _ _ opened | .activeChanged _ opened | .documentOpened _ _ opened
  | .activatePath _ _ opened => opened
  | .documentClosed _ => []

end FocusCall

namespace FocusState

/-- What a call makes of a state, and the effect that it returns, if any. -/
def answer (primary : String) (state : FocusState) : FocusCall → FocusState × Option FocusEffect
  | .initial active visible opened =>
    let (next, effect) := state.initial primary active visible opened
    (next, some effect)
  | .activeChanged active opened => state.activeChanged primary active opened
  | .documentOpened document active opened => state.documentOpened primary document active opened
  | .documentClosed document => state.documentClosed document
  | .activatePath document path opened =>
    let (next, effect) := state.activatePath document path opened
    (next, some effect)

/-- The state of a new tracker after some calls. -/
def tracked (primary : String) (calls : List FocusCall) : FocusState :=
  calls.foldl (fun state call => (state.answer primary call).1) unfocused

@[simp] theorem tracked_snoc (primary : String) (calls : List FocusCall) (call : FocusCall) :
    tracked primary (calls ++ [call]) = ((tracked primary calls).answer primary call).1 := by
  simp [tracked]

end FocusState

namespace FocusCall

variable {primary : String} {state : FocusState} {call : FocusCall}

/-- A call focuses a path, and brings the document that it is the path of, or none. -/
inductive Focuses (primary : String) : FocusCall → Option Document → String → Prop where
  | active {document : Document} (inLanguage : document.language = primary)
      (visible opened : List Document) :
      Focuses primary (.initial (some document) visible opened) (some document) document.path
  | visible {active : Option Document} {document : Document} {before after : List Document}
      (foreign : ∀ other ∈ active, other.language ≠ primary)
      (skipped : ∀ other ∈ before, other.language ≠ primary)
      (inLanguage : document.language = primary) (opened : List Document) :
      Focuses primary (.initial active (before ++ document :: after) opened) (some document)
        document.path
  | changed {document : Document} (saved : document.isUntitled = false)
      (inLanguage : document.language = primary) (opened : List Document) :
      Focuses primary (.activeChanged (some document) opened) (some document) document.path
  | untitled {document : Document} {active : Document} (unsaved : document.isUntitled = true)
      (same : active.uri = document.uri) (inLanguage : document.language = primary)
      (opened : List Document) :
      Focuses primary (.documentOpened document (some active) opened) (some document)
        ("/untitled/" ++ document.path)
  | path (document : Option Document) (path : String) (opened : List Document) :
      Focuses primary (.activatePath document (some path) opened) document path

/-- A call clears the path. -/
inductive Clears (primary : String) : FocusCall → Prop where
  | initial {active : Option Document} {visible : List Document}
      (foreign : ∀ document ∈ active, document.language ≠ primary)
      (others : ∀ document ∈ visible, document.language ≠ primary) (opened : List Document) :
      Clears primary (.initial active visible opened)
  | changed {active : Option Document}
      (foreign : ∀ document ∈ active, document.isUntitled = false ∧ document.language ≠ primary)
      (opened : List Document) : Clears primary (.activeChanged active opened)
  | untitled {document : Document} {active : Document} (unsaved : document.isUntitled = true)
      (same : active.uri = document.uri) (foreign : document.language ≠ primary)
      (opened : List Document) : Clears primary (.documentOpened document (some active) opened)
  | path (document : Option Document) (opened : List Document) :
      Clears primary (.activatePath document none opened)

/-- A call is ignored, given the document that is tracked: a document that was never saved becomes
active; a document is opened that was saved or is not active; or a document is closed that is not
tracked. -/
inductive Ignored (document : Option Document) : FocusCall → Prop where
  | unsaved {active : Document} (unsaved : active.isUntitled = true) (opened : List Document) :
      Ignored document (.activeChanged (some active) opened)
  | inactive {subject : Document} {active : Option Document}
      (inactive : subject.isUntitled = true → ∀ other ∈ active, other.uri ≠ subject.uri)
      (opened : List Document) : Ignored document (.documentOpened subject active opened)
  | closed {subject : Document} (other : ∀ tracked ∈ document, tracked.uri ≠ subject.uri) :
      Ignored document (.documentClosed subject)

/-- A call closes the document that is tracked. -/
inductive Releases : Option Document → FocusCall → Prop where
  | closed {tracked subject : Document} (same : tracked.uri = subject.uri) :
      Releases (some tracked) (.documentClosed subject)

/-- Every call does one of the four things. -/
theorem call_cases (primary : String) (document : Option Document) (call : FocusCall) :
    (∃ brought path, Focuses primary call brought path) ∨ Clears primary call ∨
      Ignored document call ∨ Releases document call := by
  cases call with
  | initial active visible opened =>
    by_cases inLanguage : ∃ document ∈ active, document.language = primary
    · obtain ⟨document, rfl, inLanguage⟩ := inLanguage
      exact .inl ⟨_, _, .active inLanguage visible opened⟩
    · have foreign : ∀ document ∈ active, document.language ≠ primary := by
        simpa only [not_exists, not_and] using inLanguage
      cases found : visible.find? (·.language == primary) with
      | none =>
        have others : ∀ document ∈ visible, document.language ≠ primary := by
          simpa using found
        exact .inr (.inl (.initial foreign others opened))
      | some document =>
        obtain ⟨chosen, before, after, rfl, skipped⟩ :=
          List.find?_eq_some_iff_append.mp found
        exact .inl ⟨_, _, .visible foreign (by simpa using skipped) (by simpa using chosen) opened⟩
  | activeChanged active opened =>
    cases active with
    | none => exact .inr (.inl (.changed (by simp) opened))
    | some document =>
      by_cases unsaved : document.isUntitled = true
      · exact .inr (.inr (.inl (.unsaved unsaved opened)))
      · have saved : document.isUntitled = false := by simpa using unsaved
        by_cases inLanguage : document.language = primary
        · exact .inl ⟨_, _, .changed saved inLanguage opened⟩
        · exact .inr (.inl (.changed (by simp [saved, inLanguage]) opened))
  | documentOpened subject active opened =>
    by_cases moves : subject.isUntitled = true ∧ ∃ other ∈ active, other.uri = subject.uri
    · obtain ⟨unsaved, other, rfl, same⟩ := moves
      by_cases inLanguage : subject.language = primary
      · exact .inl ⟨_, _, .untitled unsaved same inLanguage opened⟩
      · exact .inr (.inl (.untitled unsaved same inLanguage opened))
    · refine .inr (.inr (.inl (.inactive ?_ opened)))
      intro unsaved other member same
      exact moves ⟨unsaved, other, member, same⟩
  | documentClosed subject =>
    by_cases held : ∃ tracked ∈ document, tracked.uri = subject.uri
    · obtain ⟨tracked, rfl, same⟩ := held
      exact .inr (.inr (.inr (.closed same)))
    · refine .inr (.inr (.inl (.closed ?_)))
      simpa only [not_exists, not_and] using held
  | activatePath brought path opened =>
    cases path with
    | none => exact .inr (.inl (.path brought opened))
    | some path => exact .inl ⟨_, _, .path brought path opened⟩

section Outcome

variable {brought : Option Document} {path : String}

/-- No document of another language is chosen. -/
theorem filter_foreign {active : Option Document}
    (foreign : ∀ document ∈ active, document.language ≠ primary) :
    active.filter (FocusState.isPrimary primary) = none := by
  simpa [FocusState.isPrimary] using foreign

/-- A call that focuses a path sets it, and tracks the document that it brings if it is open. -/
theorem Focuses.answer (focuses : Focuses primary call brought path) (state : FocusState) :
    let next : FocusState := ⟨some path, brought.filter (·.isAmong call.opened)⟩
    state.answer primary call = (next, some (next.effect call.opened)) := by
  cases focuses with
  | @active document inLanguage visible opened =>
    have chosen : (some document).filter (FocusState.isPrimary primary) = some document := by
      simp [Option.filter, FocusState.isPrimary, inLanguage]
    simp only [FocusState.answer, FocusState.initial, chosen, Option.some_or]
    rfl
  | @visible active document before after foreign skipped inLanguage opened =>
    have chosen : (before ++ document :: after).find? (FocusState.isPrimary primary) =
        some document := by
      refine List.find?_eq_some_iff_append.mpr ⟨?_, before, after, rfl, ?_⟩
      · simp [FocusState.isPrimary, inLanguage]
      · simpa [FocusState.isPrimary] using skipped
    simp only [FocusState.answer, FocusState.initial, filter_foreign foreign, chosen,
      Option.none_or]
    rfl
  | @changed document saved inLanguage opened =>
    have chosen : (some document).filter (FocusState.isPrimary primary) = some document := by
      simp [Option.filter, FocusState.isPrimary, inLanguage]
    simp only [FocusState.answer, FocusState.activeChanged, Option.any_some, saved,
      Bool.false_eq_true, if_false, chosen]
    rfl
  | untitled unsaved same inLanguage opened =>
    simp only [FocusState.answer, FocusState.documentOpened, Option.any_some, unsaved, same,
      beq_self_eq_true, Bool.and_self, if_true, FocusState.isPrimary, inLanguage]
    rfl
  | path brought path opened => rfl

/-- A call that clears the path keeps the document that is tracked if it is open. -/
theorem Clears.answer (clears : Clears primary call) (state : FocusState) :
    let next : FocusState := ⟨none, state.document.filter (·.isAmong call.opened)⟩
    state.answer primary call = (next, some (next.effect call.opened)) := by
  cases clears with
  | @initial active visible foreign others opened =>
    have nothing : visible.find? (FocusState.isPrimary primary) = none := by
      simpa [FocusState.isPrimary] using others
    simp only [FocusState.answer, FocusState.initial, filter_foreign foreign, nothing,
      Option.none_or]
    rfl
  | @changed active foreign opened =>
    have saved : active.any Document.isUntitled = false := by
      cases active with
      | none => rfl
      | some document => exact (foreign document rfl).1
    have others : ∀ document ∈ active, document.language ≠ primary := by
      intro document member
      exact (foreign document member).2
    simp only [FocusState.answer, FocusState.activeChanged, saved, Bool.false_eq_true, if_false,
      filter_foreign others]
    rfl
  | untitled unsaved same foreign opened =>
    simp only [FocusState.answer, FocusState.documentOpened, Option.any_some, unsaved, same,
      beq_self_eq_true, Bool.and_self, if_true, FocusState.isPrimary,
      beq_eq_false_iff_ne.mpr foreign, Bool.false_eq_true, if_false]
    rfl
  | path brought opened => rfl

/-- A call that is ignored leaves the state as it is and returns no effect. -/
theorem Ignored.answer (ignored : Ignored state.document call) :
    state.answer primary call = (state, none) := by
  cases ignored with
  | unsaved unsaved opened => simp [FocusState.answer, FocusState.activeChanged, unsaved]
  | @inactive subject active inactive opened =>
    have refused : ¬ ((subject.isUntitled && active.any (·.uri == subject.uri)) = true) := by
      rw [Bool.and_eq_true, Option.any_eq_true]
      rintro ⟨unsaved, other, member, same⟩
      exact inactive unsaved other member (beq_iff_eq.mp same)
    simp only [FocusState.answer, FocusState.documentOpened, if_neg refused]
  | @closed subject other =>
    have refused : ¬ (state.document.any (·.uri == subject.uri) = true) := by
      rw [Option.any_eq_true]
      rintro ⟨tracked, member, same⟩
      exact other tracked member (beq_iff_eq.mp same)
    simp only [FocusState.answer, FocusState.documentClosed, if_neg refused]

/-- Closing the document that is tracked leaves nothing focused. -/
theorem Releases.answer (releases : Releases state.document call) :
    state.answer primary call = (.unfocused, some (FocusState.unfocused.effect call.opened)) := by
  obtain ⟨path, document⟩ := state
  cases releases with
  | closed same =>
    simp only [FocusState.answer, FocusState.documentClosed, Option.any_some, same,
      beq_self_eq_true, if_true]
    rfl

end Outcome

end FocusCall

namespace FocusState

variable {primary : String} {state : FocusState} {call : FocusCall}

/-- In the effect of a state whose document is open, the indicator is shown exactly if a path is set
or a document is tracked. -/
theorem effect_indicator {opened : List Document}
    (present : ∀ document ∈ state.document, document.isAmong opened = true) :
    (state.effect opened).indicator = true ↔
      state.path.isSome = true ∨ state.document.isSome = true := by
  have shown : state.document.any (·.isAmong opened) = state.document.isSome := by
    cases held : state.document with
    | none => rfl
    | some document => exact present document held
  simp [effect, shown]

/-- What a call makes of a state, and the effect that it returns, agree with each other. -/
structure Coherent (primary : String) (state : FocusState) (call : FocusCall) (next : FocusState)
    (returned : Option FocusEffect) : Prop where
  /-- Nothing is returned exactly by a call that is ignored. -/
  silent : returned = none ↔ call.Ignored state.document
  /-- Without an effect nothing changes. -/
  still : returned = none → next = state
  /-- The effect announces the path. -/
  main : ∀ effect ∈ returned, effect.main = next.path
  /-- The document that is tracked was reported as open. -/
  opened : ∀ effect ∈ returned, ∀ document ∈ next.document,
    ∃ other ∈ call.opened, other.uri = document.uri
  /-- The indicator is shown exactly if a path is set or a document is tracked. -/
  indicator : ∀ effect ∈ returned,
    (effect.indicator = true ↔ next.path.isSome = true ∨ next.document.isSome = true)
  /-- The call set the path that it focuses. -/
  focused : ∀ brought path, call.Focuses primary brought path → next.path = some path
  /-- A document that is tracked came with the path, or was kept when the path was cleared. -/
  origin : ∀ effect ∈ returned, ∀ document ∈ next.document,
    (∃ path, call.Focuses primary (some document) path ∧ next.path = some path) ∨
      (call.Clears primary ∧ next.path = none ∧ state.document = some document)
  /-- A document that was closed is not tracked. -/
  released : ∀ subject, call = .documentClosed subject →
    ∀ document ∈ next.document, document.uri ≠ subject.uri

/-- A document was installed by one of the calls together with a path, while it was open, and every
call since then was ignored, or cleared the path while the document was still open. -/
inductive Held (primary : String) : List FocusCall → Document → Prop where
  | installed {document : Document} {path : String} (calls : List FocusCall) {call : FocusCall}
      (focuses : call.Focuses primary (some document) path)
      (present : ∃ other ∈ call.opened, other.uri = document.uri) :
      Held primary (calls ++ [call]) document
  | ignored {document : Document} {calls : List FocusCall} {call : FocusCall}
      (held : Held primary calls document) (ignored : call.Ignored (some document)) :
      Held primary (calls ++ [call]) document
  | kept {document : Document} {calls : List FocusCall} {call : FocusCall}
      (held : Held primary calls document) (clears : call.Clears primary)
      (present : ∃ other ∈ call.opened, other.uri = document.uri) :
      Held primary (calls ++ [call]) document

/-- What is left of a document that has to be open. -/
theorem mem_filter_open {document : Document} {brought : Option Document}
    {opened : List Document} :
    document ∈ brought.filter (·.isAmong opened) ↔
      brought = some document ∧ ∃ other ∈ opened, other.uri = document.uri := by
  rw [Option.mem_def, Option.filter_eq_some_iff, Document.isAmong_iff]

/-- The document that is tracked after the calls is the one that was held through them.

Proof: by induction on the calls, and by what the last of them does. -/
theorem tracked_document (primary : String) (calls : List FocusCall) (document : Document) :
    document ∈ (tracked primary calls).document ↔ Held primary calls document := by
  constructor
  · intro holds
    induction calls using List.reverseRecOn with
    | nil => cases holds
    | append_singleton calls call inductionHypothesis =>
      rw [tracked_snoc] at holds
      obtain ⟨brought, path, focuses⟩ | clears | ignored | releases :=
        call.call_cases primary (tracked primary calls).document
      · rw [focuses.answer, mem_filter_open] at holds
        obtain ⟨rfl, present⟩ := holds
        exact .installed calls focuses present
      · rw [clears.answer, mem_filter_open] at holds
        exact .kept (inductionHypothesis holds.1) clears holds.2
      · rw [ignored.answer] at holds
        rw [Option.mem_def.mp holds] at ignored
        exact .ignored (inductionHypothesis holds) ignored
      · rw [releases.answer] at holds
        cases holds
  · intro held
    induction held with
    | installed calls focuses present =>
      rw [tracked_snoc, focuses.answer, mem_filter_open]
      exact ⟨rfl, present⟩
    | ignored held ignored inductionHypothesis =>
      rw [← Option.mem_def.mp inductionHypothesis] at ignored
      rw [tracked_snoc, ignored.answer]
      exact inductionHypothesis
    | kept held clears present inductionHypothesis =>
      rw [tracked_snoc, clears.answer, mem_filter_open]
      exact ⟨inductionHypothesis, present⟩

/-- A document that was closed is not tracked afterwards, whatever was tracked before. -/
theorem closed_not_tracked (primary : String) (state : FocusState) (subject document : Document)
    (holds : document ∈ (state.answer primary (.documentClosed subject)).1.document) :
    document.uri ≠ subject.uri := by
  by_cases tracked : ∃ document ∈ state.document, document.uri = subject.uri
  · obtain ⟨document, held, same⟩ := tracked
    have releases : FocusCall.Releases state.document (.documentClosed subject) :=
      held ▸ .closed same
    rw [releases.answer] at holds
    cases holds
  · have ignored : FocusCall.Ignored state.document (.documentClosed subject) :=
      .closed (by simpa only [not_exists, not_and] using tracked)
    rw [ignored.answer] at holds
    intro same
    exact tracked ⟨document, holds, same⟩

/-- Nothing is returned exactly by a call that is ignored. -/
theorem answer_silent :
    (state.answer primary call).2 = none ↔ call.Ignored state.document := by
  constructor
  · intro nothing
    obtain ⟨brought, path, focuses⟩ | clears | ignored | releases :=
      call.call_cases primary state.document
    · simp [focuses.answer] at nothing
    · simp [clears.answer] at nothing
    · exact ignored
    · simp [releases.answer] at nothing
  · intro ignored
    rw [ignored.answer]

/-- An effect is that of the state that the call leaves. A document that is tracked then is open,
and came with the path or was kept when the path was cleared. -/
theorem answer_effect {effect : FocusEffect}
    (returned : effect ∈ (state.answer primary call).2) :
    let next := (state.answer primary call).1
    effect = next.effect call.opened ∧ ∀ document ∈ next.document,
      (∃ other ∈ call.opened, other.uri = document.uri) ∧
      ((∃ path, call.Focuses primary (some document) path ∧ next.path = some path) ∨
        (call.Clears primary ∧ next.path = none ∧ state.document = some document)) := by
  obtain ⟨brought, path, focuses⟩ | clears | ignored | releases :=
    call.call_cases primary state.document
  · rw [focuses.answer] at returned ⊢
    refine ⟨(Option.some.inj returned).symm, ?_⟩
    intro document holds
    obtain ⟨rfl, present⟩ := mem_filter_open.mp holds
    exact ⟨present, .inl ⟨path, focuses, rfl⟩⟩
  · rw [clears.answer] at returned ⊢
    refine ⟨(Option.some.inj returned).symm, ?_⟩
    intro document holds
    obtain ⟨same, present⟩ := mem_filter_open.mp holds
    exact ⟨present, .inr ⟨clears, rfl, same⟩⟩
  · rw [ignored.answer] at returned
    cases returned
  · rw [releases.answer] at returned ⊢
    refine ⟨(Option.some.inj returned).symm, ?_⟩
    intro document holds
    cases holds

/-- Every call is coherent, from whatever state. -/
theorem coherent_answer (primary : String) (state : FocusState) (call : FocusCall) :
    Coherent primary state call (state.answer primary call).1 (state.answer primary call).2 where
  silent := answer_silent
  still nothing := by
    rw [(answer_silent.mp nothing).answer]
  main effect returned := by
    rw [(answer_effect returned).1]
    rfl
  opened effect returned document holds := ((answer_effect returned).2 document holds).1
  indicator effect returned := by
    rw [(answer_effect returned).1]
    apply effect_indicator
    intro document holds
    exact Document.isAmong_iff.mpr ((answer_effect returned).2 document holds).1
  focused brought path focuses := by
    rw [focuses.answer]
  origin effect returned document holds := ((answer_effect returned).2 document holds).2
  released := by
    rintro subject rfl document holds
    exact closed_not_tracked primary state subject document holds

/-- How the focus follows the editor, from a new tracker and through any calls. The document that is
tracked is the one that was held through the calls: it was installed together with a path, and every
call since was ignored or cleared the path while the document was open. A further call that returns
nothing changes nothing, and this is a call that is ignored. An effect announces the path of the
state it leaves; a document tracked in this state was reported as open by the call; the indicator is
shown exactly if a path is set or a document tracked; and the document came with the path or was
tracked before a call that cleared the path. After a document was closed, none with its URI is
tracked.

Proof: each call focuses, clears, releases or is ignored, and for each of these the answer is known;
the history of the tracked document follows by induction on the calls. -/
theorem focus_follows_what_was_installed (primary : String) (calls : List FocusCall) :
    (∀ document, (tracked primary calls).document = some document ↔
      Held primary calls document) ∧
    ∀ call, Coherent primary (tracked primary calls) call (tracked primary (calls ++ [call]))
      ((tracked primary calls).answer primary call).2 := by
  refine ⟨tracked_document primary calls, ?_⟩
  intro call
  rw [tracked_snoc]
  exact coherent_answer primary (tracked primary calls) call

/-- A document stays tracked without its path as long as it is open. -/
example :
    let draft : Document := ⟨⟨"file:///work/a.typ", by decide +kernel⟩, "typst", 1, ""⟩
    let calls : List FocusCall :=
      [.initial (some draft) [] [draft], .activatePath none none [draft]]
    tracked "typst" calls = ⟨none, some draft⟩ ∧
      tracked "typst" (calls ++ [.activatePath none none []]) = unfocused := by
  decide +kernel

end FocusState

end LanguageClient
