import LanguageClient.Proofs.Utf8
import LanguageClient.Settings.Placeholder
import Mathlib.Control.Monad.Basic

/-!
# Expansion takes a text part by part

A text begins with a plain part. Then it ends, or a placeholder follows that is not closed, or one
that is closed and has a rest of the text behind it. Expansion follows these parts: a plain part is
kept, the name in a placeholder is resolved, and the rest is expanded for itself. Its errors do not
depend on what stands before, except that the place of a placeholder that is not closed is counted
from the beginning of the whole text.

So a text may be cut wherever the cut does not fall between a dollar sign and a brace: if the first
half expands, the whole expands as its halves do. What a placeholder expands to is not looked at
again, whatever it holds. And an expansion fails exactly at the first placeholder that is not closed
or cannot be resolved, since everything before it expands.
-/

namespace LanguageClient

/-- The same error for a text that stands behind so many bytes. -/
def ExpansionError.behind (count : Nat) : ExpansionError → ExpansionError
  | .unterminated offset => .unterminated (count + offset)
  | other => other

/-- Bytes that stand before a text are counted once. -/
theorem ExpansionError.behind_behind (first second : Nat) (error : ExpansionError) :
    (error.behind second).behind first = error.behind (first + second) := by
  cases error with
  | unterminated offset => simp [behind, Nat.add_assoc]
  | _ => rfl

namespace Placeholder

/-- The characters that open a placeholder. -/
def opening : List Char := ['$', '\x7b']

/-- A text is cut wherever it contains an opening. -/
theorem cutOpening_eq_none_iff (text : List Char) :
    cutOpening text = none ↔ ¬ opening <:+: text := by
  fun_induction cutOpening text with
  | case1 rest =>
    constructor
    · intro found
      cases found
    · intro closed
      exact absurd (List.prefix_append opening rest).isInfix closed
  | case2 character rest unopened inductionHypothesis =>
    have starts : ¬ opening <+: character :: rest := by
      rintro ⟨tail, split⟩
      obtain ⟨rfl, rfl⟩ := List.cons.inj split
      exact unopened tail rfl rfl
    rw [Option.map_eq_none_iff, inductionHypothesis, List.infix_cons_iff]
    constructor
    · rintro absent (here | later)
      · exact starts here
      · exact absent later
    · exact fun absent later => absent (.inr later)
  | case3 => simp [opening]

/-- No opening comes about where one text follows another: the first does not end with a dollar
sign, or the second does not begin with a brace. -/
def Apart (left right : List Char) : Prop :=
  ¬ (left.getLast? = some '$' ∧ right.head? = some '\x7b')

/-- Nothing that begins with an opening makes another one. -/
theorem apart_opening (left rest : List Char) : Apart left (opening ++ rest) := by
  rintro ⟨-, brace⟩
  exact absurd brace (by simp [opening])

/-- A text that does not make an opening with the whole does not make one with its front. -/
theorem Apart.front {left right rest : List Char} (apart : Apart left (right ++ rest)) :
    Apart left right := by
  rintro ⟨dollar, brace⟩
  exact apart ⟨dollar, by rw [List.head?_append, brace, Option.some_or]⟩

/-- A text that does not make an opening as a whole does not make one with its back. -/
theorem Apart.back {left rest right : List Char} (apart : Apart (left ++ rest) right) :
    Apart rest right := by
  rintro ⟨dollar, brace⟩
  exact apart ⟨by rw [List.getLast?_append, dollar, Option.some_or], brace⟩

/-- A text behind one without an opening is cut where it is cut alone. -/
theorem cutOpening_append {left right : List Char} (closed : ¬ opening <:+: left)
    (apart : Apart left right) :
    cutOpening (left ++ right) =
      (cutOpening right).map fun (before, after) => (left ++ before, after) := by
  induction left with
  | nil => simp
  | cons character rest inductionHypothesis =>
    rw [List.infix_cons_iff, not_or] at closed
    have unopened : ∀ tail, character = '$' → rest ++ right = '\x7b' :: tail → False := by
      rintro tail rfl split
      cases rest with
      | nil =>
        obtain rfl : right = '\x7b' :: tail := split
        exact apart ⟨rfl, rfl⟩
      | cons next others =>
        obtain ⟨rfl, -⟩ := List.cons.inj split
        exact closed.1 (List.prefix_append opening others)
    have apartRest : Apart rest right := by
      rw [← List.singleton_append] at apart
      exact apart.back
    have later := inductionHypothesis closed.2 apartRest
    rw [List.cons_append, cutOpening.eq_2 character (rest ++ right) unopened, later, Option.map_map]
    rfl

/-- Texts without an opening make none together unless one comes about between them. -/
theorem closed_append {left right : List Char} (closedLeft : ¬ opening <:+: left)
    (closedRight : ¬ opening <:+: right) (apart : Apart left right) :
    ¬ opening <:+: left ++ right := by
  rw [← cutOpening_eq_none_iff, cutOpening_append closedLeft apart,
    (cutOpening_eq_none_iff right).mpr closedRight, Option.map_none]

/-- A text is cut at its first opening. -/
theorem cutOpening_opening {before : List Char} (closed : ¬ opening <:+: before)
    (after : List Char) : cutOpening (before ++ (opening ++ after)) = some (before, after) := by
  have here : cutOpening (opening ++ after) = some ([], after) := rfl
  simp [cutOpening_append closed (apart_opening before after), here]

/-- A cut takes a text apart at an opening, and what stands before it holds none. -/
theorem of_cutOpening_eq_some {text before after : List Char}
    (found : cutOpening text = some (before, after)) :
    text = before ++ (opening ++ after) ∧ ¬ opening <:+: before := by
  fun_induction cutOpening text generalizing before with
  | case1 rest =>
    obtain ⟨rfl, rfl⟩ := Prod.mk.inj (Option.some.inj found)
    exact ⟨rfl, by simp [opening]⟩
  | case2 character rest unopened inductionHypothesis =>
    obtain ⟨⟨front, back⟩, inside, same⟩ := Option.map_eq_some_iff.mp found
    obtain ⟨rfl, rfl⟩ := Prod.mk.inj same
    obtain ⟨rfl, closed⟩ := inductionHypothesis inside
    refine ⟨rfl, ?_⟩
    rw [List.infix_cons_iff]
    rintro (⟨tail, split⟩ | later)
    · obtain ⟨rfl, rfl⟩ := List.cons.inj split
      exact unopened _ rfl rfl
    · exact closed later
  | case3 => cases found

/-- A placeholder as it is written. -/
def written (name : List Char) : List Char := opening ++ name ++ ['\x7d']

/-- A placeholder and what follows it. -/
theorem written_append (name rest : List Char) :
    written name ++ rest = opening ++ (name ++ '\x7d' :: rest) := by
  simp [written]

/-- After a placeholder no opening comes about. -/
theorem apart_written (left name right : List Char) : Apart (left ++ written name) right := by
  rintro ⟨dollar, -⟩
  exact absurd dollar (by simp [written])

/-- Texts by their parts: a text without an opening, a plain part and a placeholder that is not
closed, or a plain part, a placeholder and a rest of which the same is said. -/
@[elab_as_elim]
theorem parts_induction {motive : List Char → Prop} (text : List Char)
    (plain : ∀ text, ¬ opening <:+: text → motive text)
    (unclosed : ∀ before body, ¬ opening <:+: before → '\x7d' ∉ body →
      motive (before ++ (opening ++ body)))
    (placeholder : ∀ before name rest, ¬ opening <:+: before → '\x7d' ∉ name → motive rest →
      motive (before ++ written name ++ rest)) : motive text := by
  induction bound : text.length using Nat.strongRecOn generalizing text with
  | ind length inductionHypothesis =>
    cases opened : cutOpening text with
    | none => exact plain text ((cutOpening_eq_none_iff text).mp opened)
    | some parts =>
      obtain ⟨before, body⟩ := parts
      have shorter := cutOpening_shorter opened
      obtain ⟨rfl, closed⟩ := of_cutOpening_eq_some opened
      cases ended : Text.cut '\x7d' body with
      | none => exact unclosed before body closed (Text.cut_eq_none_iff.mp ended)
      | some pieces =>
        obtain ⟨name, rest⟩ := pieces
        have left := Text.cut_shorter ended
        have later := inductionHypothesis rest.length (by omega) rest rfl
        rw [Text.of_cut_eq_some ended, ← written_append, ← List.append_assoc]
        exact placeholder before name rest closed (Text.not_mem_of_cut ended) later

/-- The first part of a text without an opening is the text. -/
theorem front_plain {text : List Char} (closed : ¬ opening <:+: text) : front text = .plain := by
  rw [front, (cutOpening_eq_none_iff text).mpr closed]

/-- The first parts of a text whose first placeholder is not closed. -/
theorem front_unclosed {before body : List Char} (closed : ¬ opening <:+: before)
    (unended : '\x7d' ∉ body) : front (before ++ (opening ++ body)) = .unclosed before := by
  simp [front, cutOpening_opening closed, Text.cut_eq_none_iff.mpr unended]

/-- The first parts of a text whose first placeholder is closed. -/
theorem front_placeholder {before name : List Char} (closed : ¬ opening <:+: before)
    (unended : '\x7d' ∉ name) (rest : List Char) :
    front (before ++ written name ++ rest) = .placeholder before name rest := by
  rw [List.append_assoc, written_append]
  simp [front, cutOpening_opening closed, Text.cut_append unended]

/-- Expansion goes by the first parts of a text. -/
theorem expandFrom_eq (bindings : Variables) (offset : Nat) (text : List Char) :
    expandFrom bindings offset text =
      match front text with
      | .plain => .ok text
      | .unclosed before => .error (.unterminated (offset + Utf8.size before))
      | .placeholder before name rest =>
        (resolve bindings name).bind fun value =>
          (expandFrom bindings (offset + Utf8.size before + 2 + Utf8.size name + 1) rest).map
            (before ++ value ++ ·) := by
  rw [expandFrom]
  split
  · rename_i found
    rw [found]
  · rename_i before found
    rw [found]
  · rename_i before name rest found
    rw [found]
    rfl

/-- A variable about which nothing is known is not a placeholder that is not closed. -/
theorem known_ne_unterminated (name : List Char) (value : Option (List Char)) (offset : Nat) :
    known name value ≠ .error (.unterminated offset) := by
  cases value <;> simp [known]

/-- What is wrong with a variable is not that a placeholder is not closed. -/
theorem resolve_ne_unterminated (bindings : Variables) (name : List Char) (offset : Nat) :
    resolve bindings name ≠ .error (.unterminated offset) := by
  have plain : resolvePlain bindings name ≠ .error (.unterminated offset) := by
    unfold resolvePlain
    split <;> first | exact known_ne_unterminated name _ offset | simp
  unfold resolve
  split
  · simp
  · split
    · split
      · rename_i key value found
        cases value <;> simp [scalar]
      · simp
    · split
      · exact known_ne_unterminated name _ offset
      · exact plain

/-- What is wrong with a variable does not depend on where the placeholder stands. -/
theorem behind_of_resolve {bindings : Variables} {name : List Char} {error : ExpansionError}
    (failed : resolve bindings name = .error error) (count : Nat) : error.behind count = error := by
  cases error with
  | unterminated offset => exact absurd failed (resolve_ne_unterminated bindings name offset)
  | _ => rfl

/-- What comes of a text behind another one that has so many bytes and expands to the given text. -/
def placed (count : Nat) (front : List Char) :
    Except ExpansionError (List Char) → Except ExpansionError (List Char)
  | .ok tail => .ok (front ++ tail)
  | .error error => .error (error.behind count)

@[simp] theorem placed_ok (count : Nat) (front tail : List Char) :
    placed count front (.ok tail) = .ok (front ++ tail) := rfl

@[simp] theorem placed_error (count : Nat) (front : List Char) (error : ExpansionError) :
    placed count front (.error error) = .error (error.behind count) := rfl

/-- A text behind two others is one behind both of them together. -/
theorem placed_placed (first second : Nat) (front next : List Char)
    (result : Except ExpansionError (List Char)) :
    placed first front (placed second next result) =
      placed (first + second) (front ++ next) result := by
  cases result with
  | ok tail => simp
  | error error => simp [ExpansionError.behind_behind]

section Laws

variable (bindings : Variables)

/-- A text without an opening expands to itself, wherever it stands. -/
theorem expandFrom_closed {text : List Char} (closed : ¬ opening <:+: text) (offset : Nat) :
    expandFrom bindings offset text = .ok text := by
  rw [expandFrom_eq, front_plain closed]

/-- A text without an opening expands to itself. -/
theorem expand_closed {text : List Char} (closed : ¬ opening <:+: text) :
    expand bindings text = .ok text :=
  expandFrom_closed bindings closed 0

/-- Where a text stands matters for the place in its errors alone. -/
theorem expandFrom_eq_placed (offset : Nat) (text : List Char) :
    expandFrom bindings offset text = placed offset [] (expand bindings text) := by
  induction text using parts_induction generalizing offset with
  | plain text closed =>
    rw [expandFrom_closed bindings closed, expand_closed bindings closed]
    rfl
  | unclosed before body closed unended =>
    rw [expand, expandFrom_eq, expandFrom_eq, front_unclosed closed unended]
    simp [ExpansionError.behind]
  | placeholder before name rest closed unended inductionHypothesis =>
    rw [expand, expandFrom_eq, expandFrom_eq, front_placeholder closed unended]
    dsimp only
    cases resolved : resolve bindings name with
    | error error => simp [Except.bind, behind_of_resolve resolved]
    | ok value =>
      simp only [Except.bind, inductionHypothesis]
      cases expand bindings rest with
      | ok tail => rfl
      | error error => simp [Except.map, ExpansionError.behind_behind, Nat.add_assoc]

/-- A placeholder that is not closed fails at the place where it is opened. -/
theorem expand_unclosed {before body : List Char} (closed : ¬ opening <:+: before)
    (unended : '\x7d' ∉ body) :
    expand bindings (before ++ (opening ++ body)) = .error (.unterminated (Utf8.size before)) := by
  rw [expand, expandFrom_eq, front_unclosed closed unended]
  simp

/-- A placeholder is resolved, and what follows it is expanded for itself. -/
theorem expand_written {before name : List Char} (closed : ¬ opening <:+: before)
    (unended : '\x7d' ∉ name) (rest : List Char) :
    expand bindings (before ++ written name ++ rest) =
      (resolve bindings name).bind fun value =>
        placed (Utf8.size (before ++ written name)) (before ++ value) (expand bindings rest) := by
  have size : 0 + Utf8.size before + 2 + Utf8.size name + 1 =
      Utf8.size (before ++ written name) := by
    have ends : Utf8.size opening = 2 ∧ Utf8.size ['\x7d'] = 1 := by decide
    simp only [written, Utf8.size_append, ends]
    omega
  rw [expand, expandFrom_eq, front_placeholder closed unended]
  simp only [size, expandFrom_eq_placed]
  cases expand bindings rest <;> rfl

variable {bindings}

/-- A text with a placeholder expands only if the placeholder is resolved and the rest expands. -/
theorem of_expand_written {before name rest expanded : List Char} (closed : ¬ opening <:+: before)
    (unended : '\x7d' ∉ name)
    (done : expand bindings (before ++ written name ++ rest) = .ok expanded) :
    ∃ value tail, resolve bindings name = .ok value ∧ expand bindings rest = .ok tail ∧
      expanded = before ++ value ++ tail := by
  rw [expand_written bindings closed unended] at done
  cases resolved : resolve bindings name with
  | error error => simp [resolved, Except.bind] at done
  | ok value =>
    cases tailed : expand bindings rest with
    | error error => simp [resolved, tailed, Except.bind] at done
    | ok tail =>
      simp only [resolved, tailed, Except.bind, placed_ok, Except.ok.injEq] at done
      exact ⟨value, tail, rfl, rfl, done.symm⟩

/-- Behind a text without an opening another one expands as it does alone. -/
theorem expand_append_closed {left right : List Char} (closed : ¬ opening <:+: left)
    (apart : Apart left right) :
    expand bindings (left ++ right) = placed (Utf8.size left) left (expand bindings right) := by
  cases right using parts_induction with
  | plain right closedRight =>
    rw [expand_closed bindings closedRight,
      expand_closed bindings (closed_append closed closedRight apart)]
    rfl
  | unclosed before body closedBefore unended =>
    have closedBoth := closed_append closed closedBefore apart.front
    rw [← List.append_assoc, expand_unclosed bindings closedBoth unended,
      expand_unclosed bindings closedBefore unended]
    simp [ExpansionError.behind]
  | placeholder before name rest closedBefore unended _ =>
    have closedBoth : ¬ opening <:+: left ++ before := by
      rw [List.append_assoc] at apart
      exact closed_append closed closedBefore apart.front
    have whole : left ++ (before ++ written name ++ rest) =
        left ++ before ++ written name ++ rest := by simp
    rw [whole, expand_written bindings closedBoth unended,
      expand_written bindings closedBefore unended]
    cases resolved : resolve bindings name with
    | error error => simp [Except.bind, behind_of_resolve resolved]
    | ok value => simp [Except.bind, placed_placed]

/-- Behind a text that expands another one expands as it does alone. -/
theorem expand_append {left right expanded : List Char}
    (done : expand bindings left = .ok expanded) (apart : Apart left right) :
    expand bindings (left ++ right) =
      placed (Utf8.size left) expanded (expand bindings right) := by
  induction left using parts_induction generalizing expanded with
  | plain left closed =>
    rw [expand_closed bindings closed] at done
    obtain rfl := Except.ok.inj done
    exact expand_append_closed closed apart
  | unclosed before body closed unended =>
    rw [expand_unclosed bindings closed unended] at done
    cases done
  | placeholder before name rest closed unended inductionHypothesis =>
    obtain ⟨value, tail, resolved, tailed, rfl⟩ := of_expand_written closed unended done
    have later := inductionHypothesis tailed apart.back
    rw [List.append_assoc, expand_written bindings closed unended, later, resolved, Except.bind,
      placed_placed, ← Utf8.size_append]

/-- What begins with an opening expands only if it begins with a placeholder that is resolved. -/
theorem of_expand_opening {body expanded : List Char}
    (done : expand bindings (opening ++ body) = .ok expanded) :
    ∃ name rest value, body = name ++ '\x7d' :: rest ∧ '\x7d' ∉ name ∧
      resolve bindings name = .ok value := by
  have closed : ¬ opening <:+: [] := by simp [opening]
  cases ended : Text.cut '\x7d' body with
  | none =>
    have failed := expand_unclosed bindings closed (Text.cut_eq_none_iff.mp ended)
    rw [List.nil_append, done] at failed
    cases failed
  | some pieces =>
    obtain ⟨name, rest⟩ := pieces
    obtain rfl := Text.of_cut_eq_some ended
    have unended := Text.not_mem_of_cut ended
    rw [← written_append, ← List.nil_append (written name)] at done
    obtain ⟨value, tail, resolved, -, -⟩ := of_expand_written closed unended done
    exact ⟨name, rest, value, rfl, unended, resolved⟩

end Laws

/-- Expansion goes through a text in pieces. If the first of two texts expands and the cut between
them does not fall inside an opening, both together expand to what they expand to alone. If the
second fails because a placeholder is not closed, so do both together, and the place counts the
bytes of the first; any other error of the second is the error of both. In particular what a
placeholder stands for is put in as it is and never looked at again, be it the beginning of another
placeholder.

Proof: by the parts of the first text. A plain part in front of a text moves its first opening and
nothing else, and behind a placeholder the rest is expanded for itself. -/
theorem expansion_goes_piece_by_piece (bindings : Variables) :
    (∀ first second expanded, expand bindings first = .ok expanded →
      ¬ (first.getLast? = some '$' ∧ second.head? = some '\x7b') →
      (∀ tail, expand bindings second = .ok tail →
        expand bindings (first ++ second) = .ok (expanded ++ tail)) ∧
      (∀ offset, expand bindings second = .error (.unterminated offset) →
        expand bindings (first ++ second) =
          .error (.unterminated (Utf8.size first + offset))) ∧
      ∀ error, expand bindings second = .error error → (∀ offset, error ≠ .unterminated offset) →
        expand bindings (first ++ second) = .error error) ∧
    ∀ name value rest tail, '\x7d' ∉ name → resolve bindings name = .ok value →
      expand bindings rest = .ok tail →
      expand bindings (opening ++ name ++ ['\x7d'] ++ rest) = .ok (value ++ tail) := by
  constructor
  · intro first second expanded done apart
    rw [expand_append done apart]
    refine ⟨fun tail tailed => ?_, fun offset failed => ?_, fun error failed other => ?_⟩
    · rw [tailed]
      rfl
    · rw [failed]
      rfl
    · rw [failed]
      cases error with
      | unterminated offset => exact absurd rfl (other offset)
      | _ => rfl
  · intro name value rest tail unended resolved tailed
    have closed : ¬ opening <:+: [] := by simp [opening]
    have whole := expand_written bindings closed unended rest
    rw [resolved, tailed] at whole
    exact whole

/-- Variables of which one holds an opening. -/
def riddle : Variables :=
  { Variables.empty with environment := [("A", "$\x7b"), ("B", "solved")] }

/-- The opening that a variable holds does not become a placeholder with what follows it, and a
place behind it is counted in the text as it was written, in bytes. -/
theorem riddle_is_not_solved :
    let first := "é$\x7benv:A\x7d".toList
    expand riddle first = .ok "é$\x7b".toList ∧
    expand riddle (first ++ "env:B\x7d".toList) = .ok "é$\x7benv:B\x7d".toList ∧
    expand riddle (first ++ "env:B\x7d$\x7b".toList) = .error (.unterminated 16) := by
  intro first
  have done : expand riddle first = .ok "é$\x7b".toList := by decide +kernel
  have pieces (second : List Char) (starts : second.head? = some 'e') :=
    (expansion_goes_piece_by_piece riddle).1 first second _ done (by simp [starts])
  refine ⟨done, ?_, ?_⟩
  · exact (pieces _ rfl).1 _ (by decide +kernel)
  · exact (pieces _ rfl).2.1 6 (by decide +kernel)

/-- Expansion of a text fails at the placeholder between the two parts: everything before it
expands, and it is not closed, or its name cannot be resolved. -/
inductive FailsAt (bindings : Variables) (before : List Char) :
    List Char → ExpansionError → Prop where
  | unclosed {expanded after : List Char} (expands : expand bindings before = .ok expanded)
      (unended : '\x7d' ∉ after) :
      FailsAt bindings before after (.unterminated (Utf8.size before))
  | unresolved {expanded name rest : List Char} {error : ExpansionError}
      (expands : expand bindings before = .ok expanded) (unended : '\x7d' ∉ name)
      (failed : resolve bindings name = .error error) :
      FailsAt bindings before (name ++ '\x7d' :: rest) error

namespace FailsAt

variable {bindings : Variables} {before after : List Char} {error : ExpansionError}

/-- What stands before the placeholder expands. -/
theorem expands (fails : FailsAt bindings before after error) :
    ∃ expanded, expand bindings before = .ok expanded := by
  cases fails with
  | unclosed expands unended => exact ⟨_, expands⟩
  | unresolved expands unended failed => exact ⟨_, expands⟩

/-- The name of a placeholder that fails and is closed cannot be resolved. -/
theorem resolve_error {name rest : List Char}
    (fails : FailsAt bindings before (name ++ '\x7d' :: rest) error) (unended : '\x7d' ∉ name) :
    resolve bindings name = .error error := by
  generalize same : name ++ '\x7d' :: rest = after at fails
  cases fails with
  | unclosed expands unclosed =>
    subst same
    exact absurd (by simp) unclosed
  | unresolved expands otherUnended failed =>
    have cuts := Text.cut_append unended rest
    rw [same, Text.cut_append otherUnended] at cuts
    obtain ⟨rfl, -⟩ := Prod.mk.inj (Option.some.inj cuts)
    exact failed

/-- The error is the one that is reported. -/
theorem expand_error (fails : FailsAt bindings before after error) :
    expand bindings (before ++ (opening ++ after)) = .error error := by
  have closed : ¬ opening <:+: [] := by simp [opening]
  obtain ⟨expanded, done⟩ := fails.expands
  rw [expand_append done (apart_opening before after)]
  cases fails with
  | unclosed expands unended =>
    have failed := expand_unclosed bindings closed unended
    rw [List.nil_append] at failed
    rw [failed]
    rfl
  | @unresolved _ name rest _ expands unended failed =>
    rw [← written_append, ← List.nil_append (written name),
      expand_written bindings closed unended, failed]
    simp [Except.bind, behind_of_resolve failed]

/-- A text that expands and is put in front moves the place of the failure. -/
theorem append {front expanded : List Char} (done : expand bindings front = .ok expanded)
    (apart : Apart front before) (fails : FailsAt bindings before after error) :
    FailsAt bindings (front ++ before) after (error.behind (Utf8.size front)) := by
  obtain ⟨inner, expands⟩ := fails.expands
  have both : expand bindings (front ++ before) = .ok (expanded ++ inner) := by
    rw [expand_append done apart, expands]
    rfl
  cases fails with
  | unclosed _ unended =>
    rw [ExpansionError.behind, ← Utf8.size_append]
    exact .unclosed both unended
  | unresolved _ unended failed =>
    rw [behind_of_resolve failed]
    exact .unresolved both unended failed

/-- No placeholder behind a failing one fails too: what stands before it does not expand. -/
theorem last {more later : List Char} {other : ExpansionError}
    (fails : FailsAt bindings before after error)
    (further : FailsAt bindings (before ++ more) later other)
    (same : opening ++ after = more ++ (opening ++ later)) : more = [] := by
  obtain ⟨expanded, done⟩ := fails.expands
  obtain ⟨longer, further⟩ := further.expands
  match more, same, further with
  | [], _, _ => rfl
  | [_], same, _ => simp [opening] at same
  | first :: second :: more, same, further =>
    simp only [opening, List.cons_append, List.nil_append, List.cons.injEq] at same
    obtain ⟨rfl, rfl, rfl⟩ := same
    change expand bindings (before ++ (opening ++ more)) = .ok longer at further
    rw [expand_append done (apart_opening before more)] at further
    cases inner : expand bindings (opening ++ more) with
    | error error => simp [inner] at further
    | ok tail =>
      obtain ⟨name, rest, value, rfl, unended, resolved⟩ := of_expand_opening inner
      rw [List.append_assoc, List.cons_append] at fails
      rw [fails.resolve_error unended] at resolved
      cases resolved

end FailsAt

/-- An expansion that fails does so at some placeholder. -/
theorem failsAt_of_expand {bindings : Variables} {text : List Char} {error : ExpansionError}
    (failed : expand bindings text = .error error) :
    ∃ before after, text = before ++ (opening ++ after) ∧
      FailsAt bindings before after error := by
  induction text using parts_induction generalizing error with
  | plain text closed =>
    rw [expand_closed bindings closed] at failed
    cases failed
  | unclosed before body closed unended =>
    rw [expand_unclosed bindings closed unended] at failed
    obtain rfl := Except.error.inj failed
    exact ⟨before, body, rfl, .unclosed (expand_closed bindings closed) unended⟩
  | placeholder before name rest closed unended inductionHypothesis =>
    cases resolved : resolve bindings name with
    | error cause =>
      rw [expand_written bindings closed unended, resolved] at failed
      obtain rfl := Except.error.inj failed
      refine ⟨before, name ++ '\x7d' :: rest, by simp [written_append], ?_⟩
      exact .unresolved (expand_closed bindings closed) unended resolved
    | ok value =>
      have front : expand bindings (before ++ written name) = .ok (before ++ value) := by
        have nothing : expand bindings [] = .ok [] := expand_closed bindings (by simp [opening])
        have whole := expand_written bindings closed unended []
        simpa [resolved, nothing, Except.bind] using whole
      rw [expand_append front (apart_written before name rest)] at failed
      cases inner : expand bindings rest with
      | ok tail => simp [inner] at failed
      | error cause =>
        simp only [inner, placed_error, Except.error.injEq] at failed
        obtain ⟨first, after, rfl, fails⟩ := inductionHypothesis inner
        refine ⟨before ++ written name ++ first, after, by simp, ?_⟩
        exact failed ▸ fails.append front (apart_written before name first)

/-- Where and how an expansion fails. It fails with an error exactly if the text has an opening
before which everything expands, and either no brace follows, and the error says so with the place
of this opening in bytes, or the name up to the next brace cannot be resolved, and the error is that
of the name. There is one such opening at most, so the error is that of the first placeholder that
fails, whatever follows it; and a place in an error is the place of an opening.

Proof: by the parts of the text, a text that fails has such an opening. Behind a placeholder that
fails there is no other one, since what stands before it holds the first and does not expand. -/
theorem expansion_fails_at_the_first_bad_placeholder (bindings : Variables) (text : List Char) :
    (∀ error, expand bindings text = .error error ↔
      ∃ before after, text = before ++ (opening ++ after) ∧
        FailsAt bindings before after error) ∧
    (∀ before after error before' after' error',
      text = before ++ (opening ++ after) → FailsAt bindings before after error →
      text = before' ++ (opening ++ after') → FailsAt bindings before' after' error' →
      before = before' ∧ after = after' ∧ error = error') ∧
    ∀ offset, expand bindings text = .error (.unterminated offset) →
      ∃ after, (Utf8.encode text).drop offset = Utf8.encode (opening ++ after) ∧
        '\x7d' ∉ after := by
  refine ⟨fun error => ⟨failsAt_of_expand, ?_⟩, ?_, ?_⟩
  · rintro ⟨before, after, rfl, fails⟩
    exact fails.expand_error
  · rintro before after error before' after' error' rfl fails split fails'
    have same : before = before' := by
      obtain ⟨more, rfl, rest⟩ | ⟨more, rfl, rest⟩ := List.append_eq_append_iff.mp split
      · rw [fails.last fails' rest, List.append_nil]
      · rw [fails'.last fails rest, List.append_nil]
    subst same
    obtain rfl := List.append_cancel_left (List.append_cancel_left split)
    have reported := fails.expand_error.symm.trans fails'.expand_error
    exact ⟨rfl, rfl, Except.error.inj reported⟩
  · intro offset failed
    obtain ⟨before, after, rfl, fails⟩ := failsAt_of_expand failed
    cases fails with
    | unclosed expands unended =>
      refine ⟨after, ?_, unended⟩
      rw [Utf8.encode_append, Utf8.size, List.drop_left]
    | @unresolved _ name _ _ _ _ failed =>
      exact absurd failed (resolve_ne_unterminated bindings name offset)

/-- A placeholder for the active file of an editor without one decides the error, and not the one
behind it that is not closed; no other split of the text explains the error. -/
theorem riddle_fails_at_the_file :
    let text := "é$\x7benv:A\x7d$\x7bfile\x7d$\x7b".toList
    expand riddle text = .error (.unavailable "file") ∧
    ∀ before after error, text = before ++ (opening ++ after) →
      FailsAt riddle before after error →
      before = "é$\x7benv:A\x7d".toList ∧ error = .unavailable "file" := by
  intro text
  have done : expand riddle "é$\x7benv:A\x7d".toList = .ok "é$\x7b".toList := by decide +kernel
  have missing : resolve riddle "file".toList = .error (.unavailable "file") := by decide +kernel
  have fails : FailsAt riddle "é$\x7benv:A\x7d".toList ("file".toList ++ '\x7d' :: opening)
      (.unavailable "file") := .unresolved done (by decide) missing
  have split : text = "é$\x7benv:A\x7d".toList ++
      (opening ++ ("file".toList ++ '\x7d' :: opening)) := by decide
  obtain ⟨fails_iff, unique, -⟩ := expansion_fails_at_the_first_bad_placeholder riddle text
  refine ⟨(fails_iff _).mpr ⟨_, _, split, fails⟩, ?_⟩
  intro before after error otherSplit otherFails
  obtain ⟨sameBefore, -, sameError⟩ := unique _ _ _ _ _ _ otherSplit otherFails split fails
  exact ⟨sameBefore, sameError⟩

end Placeholder

end LanguageClient
