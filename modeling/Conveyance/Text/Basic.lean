/-!
# Text/Basic — text as a list of characters, cut and joined

Every rule of this library reads text from left to right, so `Text` is the list of its characters.
`isBlank` is the one notion of white space; `trim` and its one-sided forms cut by it, `trimBy` by
any class.  `stripPrefix?`, `stripSuffix?` and `breakOn?` take a text apart at a fixed word,
`splitOn` at every occurrence of a character, and `join` puts parts together again.
-/

namespace Conveyance

/-- Text as the list of its characters. -/
abbrev Text := List Char

namespace Text

/-! ## Blank characters and trimming -/

/-- **A character is blank** when it has the Unicode property White_Space. -/
def isBlank (c : Char) : Bool :=
  let n := c.toNat
  (9 ≤ n && n ≤ 13) || n == 32 || n == 0x85 || n == 0xA0 || n == 0x1680 ||
    (0x2000 ≤ n && n ≤ 0x200A) || n == 0x2028 || n == 0x2029 || n == 0x202F || n == 0x205F ||
    n == 0x3000

/-- Nothing but blank characters, the empty text included. -/
def allBlank (t : Text) : Bool := t.all isBlank

/-- Drop the characters of a class from the end. -/
def trimEndBy (p : Char → Bool) (t : Text) : Text := (t.reverse.dropWhile p).reverse

/-- Drop the characters of a class from both ends. -/
def trimBy (p : Char → Bool) (t : Text) : Text := trimEndBy p (t.dropWhile p)

/-- Drop blank characters from the start. -/
def trimStart (t : Text) : Text := t.dropWhile isBlank

/-- Drop blank characters from the end. -/
def trimEnd (t : Text) : Text := trimEndBy isBlank t

/-- Drop blank characters from both ends. -/
def trim (t : Text) : Text := trimEnd (trimStart t)

/-! ## Taking a text apart -/

/-- What follows the word `w` at the start of a text. -/
def stripPrefix? : (w t : Text) → Option Text
  | [], t => some t
  | _ :: _, [] => none
  | c :: w, d :: t => if c = d then stripPrefix? w t else none

/-- What precedes the word `w` at the end of a text. -/
def stripSuffix? (w t : Text) : Option Text :=
  (stripPrefix? w.reverse t.reverse).map List.reverse

theorem eq_append_of_stripPrefix? :
    ∀ {w t rest : Text}, stripPrefix? w t = some rest → t = w ++ rest
  | [], _, _, h => by simpa [stripPrefix?] using h
  | c :: w, [], _, h => by simp [stripPrefix?] at h
  | c :: w, d :: t, rest, h => by
      rw [stripPrefix?] at h
      split at h
      · next hcd => rw [eq_append_of_stripPrefix? h, hcd, List.cons_append]
      · cases h

theorem stripPrefix?_append : ∀ w t : Text, stripPrefix? w (w ++ t) = some t
  | [], _ => rfl
  | c :: w, t => by rw [List.cons_append, stripPrefix?, if_pos rfl, stripPrefix?_append w t]

/-- The parts before and after the first occurrence of the word `w`. -/
def breakOn? (w : Text) : Text → Option (Text × Text)
  | [] => (stripPrefix? w []).map ([], ·)
  | c :: t =>
    match stripPrefix? w (c :: t) with
    | some rest => some ([], rest)
    | none => (breakOn? w t).map fun (before, after) => (c :: before, after)

/-- **The first occurrence splits the text**: nothing is lost around the word. -/
theorem eq_append_of_breakOn? {w : Text} :
    ∀ {t before after : Text}, breakOn? w t = some (before, after) → t = before ++ w ++ after
  | [], before, after, h => by
      rw [breakOn?] at h
      obtain ⟨rest, hrest, heq⟩ := Option.map_eq_some_iff.1 h
      cases heq
      simpa using eq_append_of_stripPrefix? hrest
  | c :: t, before, after, h => by
      rw [breakOn?] at h
      split at h
      · next rest hrest =>
          cases h
          simpa using eq_append_of_stripPrefix? hrest
      · obtain ⟨⟨b, a⟩, hba, heq⟩ := Option.map_eq_some_iff.1 h
        cases heq
        rw [eq_append_of_breakOn? hba]
        simp

/-- The parts between the occurrences of a character; there is always at least one part. -/
def splitOn (sep : Char) : Text → List Text
  | [] => [[]]
  | c :: t =>
    if c = sep then [] :: splitOn sep t
    else match splitOn sep t with
      | [] => [[c]]
      | part :: parts => (c :: part) :: parts

/-- Parts put together with a word between neighbours. -/
def join (sep : Text) (parts : List Text) : Text := sep.intercalate parts

/-- Every occurrence of one character replaced by a text. -/
def replaceChar (c : Char) (w : Text) (t : Text) : Text :=
  t.flatMap fun d => if d = c then w else [d]

/-! ## Letters and sizes -/

/-- Small letters for the capital letters A to Z; every other character stays. -/
def asciiLower (t : Text) : Text := t.map Char.toLower

/-- The number of bytes of the text in UTF-8. -/
def utf8Length (t : Text) : Nat := t.foldr (fun c n => c.utf8Size + n) 0

/-- The text in UTF-8. -/
def utf8 (t : Text) : List UInt8 := t.flatMap String.utf8EncodeChar

end Text

end Conveyance
