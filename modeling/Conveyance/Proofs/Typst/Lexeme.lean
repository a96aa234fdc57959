import Conveyance.Typst.Fragment
import Mathlib.Data.List.Basic

/-!
# Proofs/Typst/Lexeme — source text read back

`lex` reads source text from left to right without knowing how it was put together: a quote opens a
string literal, a backslash inside it takes the next character along, and the next quote closes it.
**Escaping is a prefix code**: a quoted text is read as one literal whatever stands behind it
(`lex_quoted_append`).  So source is read as the fragments that it was put together from, as long as
no code among them holds a quote (`lex_sourceOf`).
-/

namespace Conveyance.Typst

/-- What is read in source text: a character of code, or a string literal with the text it stands
for. -/
inductive Lexeme where
  | code (c : Char)
  | literal (text : Text)
  deriving DecidableEq, Repr

namespace Lexeme

/-- The text of a literal. -/
def text? : Lexeme → Option Text
  | code _ => none
  | literal t => some t

/-- What stands outside the literals: a character of code, or the gap that a literal leaves. -/
def outside : Lexeme → Option Char
  | code c => some c
  | literal _ => none

end Lexeme

/-! ## Reading -/

/-- The character that a backslash and the given one stand for. -/
def unescape? (c : Char) : Option Char :=
  if c = 'n' then some '\n' else if c = '\\' || c = '"' then some c else none

/-- Source text read on, outside the literals or inside one whose text is read so far; there is no
reading when a literal is not closed or an escape is unknown. -/
def lexFrom : (inside : Option Text) → Text → Option (List Lexeme)
  | none, [] => some []
  | some _, [] => none
  | none, '"' :: t => lexFrom (some []) t
  | none, c :: t => (lexFrom none t).map (.code c :: ·)
  | some w, '"' :: t => (lexFrom none t).map (.literal w :: ·)
  | some w, '\\' :: c :: t => (unescape? c).bind fun d => lexFrom (some (w ++ [d])) t
  | some w, c :: t => lexFrom (some (w ++ [c])) t

/-- **Source text as code and string literals.** -/
def lex (t : Text) : Option (List Lexeme) := lexFrom none t

theorem lex_cons_of_ne {c : Char} (h : c ≠ '"') (t : Text) :
    lex (c :: t) = (lex t).map (.code c :: ·) := by
  rw [lex, lexFrom, lex]
  exact h

theorem lexFrom_cons_of_ne {c : Char} (hquote : c ≠ '"') (hslash : c ≠ '\\') (w t : Text) :
    lexFrom (some w) (c :: t) = lexFrom (some (w ++ [c])) t := by
  rw [lexFrom]
  · exact hquote
  · exact fun d u h => absurd h hslash

/-- An escaped character is read as the character. -/
theorem lexFrom_escapeChar (w : Text) (c : Char) (t : Text) :
    lexFrom (some w) (escapeChar c ++ t) = lexFrom (some (w ++ [c])) t := by
  unfold escapeChar
  split
  · next h => subst h; rfl
  · next hslash =>
    split
    · next h => subst h; rfl
    · next hquote =>
      split
      · next h => subst h; rfl
      · exact lexFrom_cons_of_ne hquote hslash w t

theorem lexFrom_escape (w t rest : Text) :
    lexFrom (some w) (escape t ++ '"' :: rest) = (lex rest).map (.literal (w ++ t) :: ·) := by
  induction t generalizing w with
  | nil => rw [List.append_nil]; rfl
  | cons c t ih =>
    rw [escape, List.flatMap_cons, List.append_assoc, lexFrom_escapeChar, ← escape, ih,
      List.append_assoc, List.singleton_append]

/-- **A quoted text is one literal**, whatever the text holds and whatever follows it. -/
theorem lex_quoted_append (t rest : Text) :
    lex (quoted t ++ rest) = (lex rest).map (.literal t :: ·) := by
  have hsource : quoted t ++ rest = '"' :: (escape t ++ '"' :: rest) := by simp [quoted]
  have hread := lexFrom_escape [] t rest
  rw [List.nil_append] at hread
  rw [hsource, ← hread]
  rfl

/-- A text that would close its literal and go on as code stays in it. -/
example : lex (quoted "\\\"] #".toList) = some [.literal "\\\"] #".toList] := by decide

theorem lex_append_of_notMem {t : Text} (h : '"' ∉ t) (rest : Text) :
    lex (t ++ rest) = (lex rest).map (t.map .code ++ ·) := by
  induction t with
  | nil => exact Option.map_id'.symm
  | cons c t ih =>
    have hc : c ≠ '"' := fun hc => h (hc ▸ List.mem_cons_self)
    rw [List.cons_append, lex_cons_of_ne hc, ih fun ht => h (List.mem_cons_of_mem c ht),
      Option.map_map]
    rfl

/-! ## Fragments -/

namespace Fragment

/-- What a fragment is read as. -/
def lexemes : Fragment → List Lexeme
  | code t => t.map .code
  | literal t => [.literal t]

/-- Code without quotes; a literal may hold any. -/
def Quoteless : Fragment → Prop
  | code t => '"' ∉ t
  | literal _ => True

@[simp] theorem quoteless_code {t : Text} : (code t).Quoteless ↔ '"' ∉ t := Iff.rfl

@[simp] theorem quoteless_literal {t : Text} : (literal t).Quoteless := trivial

/-- The text of a literal. -/
def text? : Fragment → Option Text
  | code _ => none
  | literal t => some t

/-- The fragment with nothing in it that is quoted. -/
def hollow : Fragment → Fragment
  | code t => code t
  | literal _ => literal []

theorem lex_source_append {f : Fragment} (h : f.Quoteless) (rest : Text) :
    lex (f.source ++ rest) = (lex rest).map (f.lexemes ++ ·) := by
  rcases f with t | t
  · exact lex_append_of_notMem h rest
  · exact lex_quoted_append t rest

theorem filterMap_text?_lexemes (f : Fragment) :
    f.lexemes.filterMap Lexeme.text? = f.text?.toList := by
  rcases f with t | t
  · rw [lexemes, List.filterMap_map]
    exact List.filterMap_eq_nil_iff.2 fun c _ => rfl
  · rfl

/-- Outside the literals nothing of their texts is seen. -/
theorem map_outside_lexemes (f : Fragment) :
    f.lexemes.map Lexeme.outside = f.hollow.lexemes.map Lexeme.outside := by
  rcases f with t | t
  · rfl
  · rfl

end Fragment

/-- What fragments are read as. -/
def lexemesOf (fragments : List Fragment) : List Lexeme := fragments.flatMap Fragment.lexemes

/-- **Source is read as its fragments** when no code among them holds a quote. -/
theorem lex_sourceOf {fragments : List Fragment} (h : ∀ f ∈ fragments, f.Quoteless) :
    lex (sourceOf fragments) = some (lexemesOf fragments) := by
  induction fragments with
  | nil => rfl
  | cons f fragments ih =>
    rw [sourceOf, List.flatMap_cons, Fragment.lex_source_append (h f List.mem_cons_self),
      ← sourceOf, ih fun g hg => h g (List.mem_cons_of_mem f hg)]
    rfl

/-- The literals are the texts that were quoted. -/
theorem filterMap_text?_lexemesOf (fragments : List Fragment) :
    (lexemesOf fragments).filterMap Lexeme.text? = fragments.filterMap Fragment.text? := by
  rw [lexemesOf, List.filterMap_flatMap, List.filterMap_eq_flatMap_toList]
  exact List.flatMap_congr fun f _ => f.filterMap_text?_lexemes

/-- **Fragments that are the same when hollow** are the same outside the literals. -/
theorem map_outside_lexemesOf {fragments fragments' : List Fragment}
    (h : fragments.map Fragment.hollow = fragments'.map Fragment.hollow) :
    (lexemesOf fragments).map Lexeme.outside = (lexemesOf fragments').map Lexeme.outside := by
  have hhollow : ∀ fs : List Fragment, (lexemesOf fs).map Lexeme.outside
      = (lexemesOf (fs.map Fragment.hollow)).map Lexeme.outside := by
    intro fs
    rw [lexemesOf, lexemesOf, List.map_flatMap, List.map_flatMap, List.flatMap_map]
    exact List.flatMap_congr fun f _ => f.map_outside_lexemes
  rw [hhollow, h, ← hhollow]

end Conveyance.Typst
