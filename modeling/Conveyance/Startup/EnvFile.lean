import Conveyance.Text.Alphanumeric
import Conveyance.Text.Basic

/-!
# Startup/EnvFile — variables set in a file

A file of settings holds one setting to a line: a name, an equals sign and a value, which may stand in
single or double quotes and may name other variables.  `lines` cuts the file, where **quotes may run
over the end of a line**; `Line.read` reads one of its lines; `load` sets the variables that are not set
already, up to the first line that is broken.
-/

namespace Conveyance.EnvFile

/-- The text that each name holds, if it is set. -/
abbrev Names := Text → Option Text

/-! ## Lines -/

/-- What the end of a line would mean after the characters read so far. -/
inductive Stretch where
  | plain
  | blank
  | escaped
  /-- Inside double quotes. -/
  | weak
  | weakEscaped
  /-- Inside single quotes. -/
  | strong
  | strongEscaped
  deriving DecidableEq, Repr

namespace Stretch

/-- What a character outside quotes opens. -/
def opened (c : Char) : Stretch :=
  if c = '\\' then escaped else if c = '"' then weak else if c = '\'' then strong else plain

/-- The stretch after one more character, unless a comment starts there: a number sign counts as one
only after a blank. -/
def next? : Stretch → Char → Option Stretch
  | plain, c => some (if Text.isBlank c && c != '\n' && c != '\r' then blank else opened c)
  | blank, c => if c = '#' then none else some (opened c)
  | escaped, _ => some plain
  | weak, c => some (if c = '\\' then weakEscaped else if c = '"' then plain else weak)
  | weakEscaped, _ => some weak
  | strong, c => some (if c = '\\' then strongEscaped else if c = '\'' then plain else strong)
  | strongEscaped, _ => some strong

end Stretch

/-- What follows the next line break. -/
def afterBreak (t : Text) : Text := (t.dropWhile (· != '\n')).drop 1

theorem length_afterBreak_le (t : Text) : (afterBreak t).length ≤ t.length := by
  rw [afterBreak, List.length_drop]
  have h := (List.dropWhile_sublist (l := t) (· != '\n')).length_le
  omega

/-- One line and what follows it; a file that ends inside quotes has no line there. -/
def cutLine : Stretch → Text → Option Text × Text
  | s, [] => (if s = .plain then some [] else none, [])
  | s, c :: t =>
    match s.next? c with
    | none => (some [], afterBreak (c :: t))
    | some s =>
      if c = '\n' && s = .plain then (some [], t)
      else
        let (line, rest) := cutLine s t
        (line.map (c :: ·), rest)

theorem length_afterBreak_cons {c : Char} (hc : c ≠ '\n') (t : Text) :
    (afterBreak (c :: t)).length ≤ t.length := by
  rw [afterBreak, List.dropWhile_cons_of_pos (by simpa using hc)]
  exact length_afterBreak_le t

theorem ne_break_of_next?_eq_none {s : Stretch} {c : Char} (h : s.next? c = none) : c ≠ '\n' := by
  cases s <;> simp [Stretch.next?] at h
  subst h
  decide

/-- **A line takes at least one character.** -/
theorem length_cutLine_cons (s : Stretch) (c : Char) (t : Text) :
    (cutLine s (c :: t)).2.length ≤ t.length := by
  induction t generalizing s c with
  | nil =>
    rw [cutLine]
    split
    · next h => exact length_afterBreak_cons (ne_break_of_next?_eq_none h) []
    · split <;> simp [cutLine]
  | cons d t ih =>
    rw [cutLine]
    split
    · next h => exact length_afterBreak_cons (ne_break_of_next?_eq_none h) (d :: t)
    · split
      · exact Nat.le_refl _
      · exact Nat.le_succ_of_le (ih _ d)

/-- **The lines of a file**; one that is nothing but a comment is left out. -/
def lines : Text → List (Option Text)
  | [] => []
  | c :: t =>
    if (Text.trimStart ((c :: t).takeWhile (· != '\n'))).head? = some '#' then
      lines (afterBreak (c :: t))
    else (cutLine .plain (c :: t)).1 :: lines (cutLine .plain (c :: t)).2
termination_by t => t.length
decreasing_by
  · rw [afterBreak, List.length_drop, List.length_cons]
    by_cases hc : c = '\n'
    · subst hc
      simp
    · have h := length_afterBreak_cons hc t
      rw [afterBreak, List.length_drop] at h
      omega
  · exact Nat.lt_succ_of_le (length_cutLine_cons .plain c t)

/-! ## Values -/

/-- Where the reading of a value stands. -/
inductive Position where
  | plain
  /-- Inside double quotes. -/
  | weak
  /-- Inside single quotes. -/
  | strong
  /-- After a backslash, inside double quotes or outside. -/
  | escaped (quoted : Bool)
  /-- In the name of a variable, perhaps between braces. -/
  | naming (quoted braced : Bool) (name : Text)
  /-- After the value. -/
  | ended
  deriving DecidableEq, Repr

namespace Position

/-- Inside double quotes, or outside. -/
def outer (quoted : Bool) : Position := if quoted then weak else plain

/-- The characters that stand for themselves after a backslash. -/
def keptAfterBackslash : List Char := ['\\', '\'', '"', '$', ' ']

/-- An opening brace. -/
def openBrace : Char := Char.ofNat 0x7B

/-- A closing brace. -/
def closeBrace : Char := Char.ofNat 0x7D

/-- One more character: what it adds to the value and where that leads.  **What ends a name without
braces is taken as it stands**, be it a quote. -/
def next? (names : Names) : Position → Char → Option (Text × Position)
  | plain, c =>
    if c = '$' then some ([], naming false false [])
    else if c = '\'' then some ([], strong)
    else if c = '"' then some ([], weak)
    else if c = '\\' then some ([], escaped false)
    else if c = ' ' || c = '\t' then some ([], ended)
    else some ([c], plain)
  | weak, c =>
    if c = '$' then some ([], naming true false [])
    else if c = '"' then some ([], plain)
    else if c = '\\' then some ([], escaped true)
    else some ([c], weak)
  | strong, c => if c = '\'' then some ([], plain) else some ([c], strong)
  | escaped quoted, c =>
    if c = 'n' then some (['\n'], outer quoted)
    else if keptAfterBackslash.contains c then some ([c], outer quoted)
    else none
  | naming quoted braced name, c =>
    let value := (names name).getD []
    if Text.isAlphanumeric c then some ([], naming quoted braced (name ++ [c]))
    else if braced then
      if c = closeBrace then some (value, outer quoted)
      else some ([], naming quoted true (name ++ [c]))
    else if c = openBrace && name.isEmpty then some ([], naming quoted true [])
    else if c = '$' then some (value, naming quoted false [])
    else some (value ++ [c], outer quoted)
  | ended, c => if c = ' ' || c = '\t' then some ([], ended) else none

/-- What the end of a line adds, where a value may end. -/
def last? (names : Names) : Position → Option Text
  | plain | ended | escaped false => some []
  | naming false false name => some ((names name).getD [])
  | _ => none

end Position

/-- The value that a line ends with. -/
def value? (names : Names) : Position → Text → Option Text
  | p, [] => p.last? names
  | p, c :: t =>
    if p = .ended && c = '#' then some []
    else (p.next? names c).bind fun (added, p) => (value? names p t).map (added ++ ·)

/-! ## Settings -/

/-- What a line says. -/
inductive Line where
  | nothing
  | setting (name value : Text)
  | broken
  deriving DecidableEq, Repr

namespace Line

/-- The character may stand in a name after its first. -/
def inName (c : Char) : Bool := c.isAlphanum || c == '_' || c == '.'

/-- A name at the start of a text, and what follows it and the blanks after it. -/
def cutName? (t : Text) : Option (Text × Text) :=
  if t.head?.any fun c => c.isAlpha || c == '_' then
    some (t.takeWhile inName, Text.trimStart (t.dropWhile inName))
  else none

/-- The word that may stand before a setting. -/
def exportWord : Text := "export".toList

/-- The name that is set, and what stands after the equals sign. -/
def cutSetting? (t : Text) : Option (Text × Text) :=
  match cutName? t with
  | none => none
  | some (name, '=' :: rest) => some (name, rest)
  | some (word, rest) =>
    if word = exportWord then
      match cutName? rest with
      | some (name, '=' :: rest) => some (name, rest)
      | _ => none
    else none

/-- **A line read.** -/
def read (names : Names) (t : Text) : Line :=
  let t := Text.trim t
  if t.isEmpty || t.head? = some '#' then nothing
  else match cutSetting? t with
    | none => broken
    | some (name, rest) =>
      let rest := Text.trimStart rest
      if rest.head? = some '#' then setting name []
      else match value? names .plain rest with
        | some value => setting name value
        | none => broken

end Line

/-- The names with one more that is set, unless it is set already. -/
def setIfUnset (names : Names) (name value : Text) : Names :=
  fun n => if n = name then (names n).or (some value) else names n

/-- Lines followed one after another, up to a broken one. -/
def follow (names : Names) : List (Option Text) → Names
  | [] => names
  | none :: _ => names
  | some line :: rest =>
    match Line.read names line with
    | .nothing => follow names rest
    | .setting name value => follow (setIfUnset names name value) rest
    | .broken => names

/-- **The variables after a file**; a mark of its byte order is passed over. -/
def load (names : Names) (file : Text) : Names :=
  follow names (lines (if file.head? = some (Char.ofNat 0xFEFF) then file.drop 1 else file))

end Conveyance.EnvFile
