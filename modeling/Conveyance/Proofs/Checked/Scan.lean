import Conveyance.Proofs.Checked.Cut
import Conveyance.Proofs.Scan

/-!
# Proofs/Checked/Scan — a template scanned byte by byte

Here the scanner walks over the bytes of a template and cuts its tokens out of it by their places.
It looks for a mark at every byte, inside a character too, and is safe because **no byte inside a
character is a brace or a tilde**: it cuts only where one of those stands.  Its tokens are those of
`Token.scan` (`Token.scanBytes_eq`).
-/

namespace Conveyance

/-! ## Marks -/

namespace Placeholder

/-- What a word between braces names, its bracket found by its byte. -/
def ofNameBytes (n : Text) : Checked (Option Placeholder) :=
  if n.isEmpty || !n.all isNameChar then .ok none
  else match Text.find? ['['] n with
    | some bracket => do
      let field ← Text.upTo bracket n
      let rest ← Text.since (bracket + 1) n
      return ofCellName? field rest
    | none => .ok (ofPlainName? n)

/-- The placeholder that starts a text, with the number of its bytes. -/
def readBytes (t : Text) : Checked (Option (Placeholder × Nat)) :=
  match Text.stripPrefix? ['{', '{'] t with
  | none => .ok none
  | some body =>
    match Text.find? ['}', '}'] body with
    | none => .ok none
    | some stop => do
      let name ← Text.upTo stop body
      return (← ofNameBytes name).map fun p => (p, 2 + stop + 2)

theorem ofNameBytes_eq (n : Text) : ofNameBytes n = .ok (ofName? n) := by
  by_cases hnil : n = []
  · rw [hnil]
    rfl
  · rw [ofNameBytes, ofName?]
    by_cases hname : n.all isNameChar = true
    · rw [if_neg (by simp [hnil, hname]), if_pos hname, Text.find?]
      rcases hbreak : Text.breakOn? ['['] n with _ | ⟨field, rest⟩
      · rfl
      · -- the bracket is one byte, so the name is cut in front of it and behind it
        have hn := Text.eq_append_of_breakOn? hbreak
        have hfield : Text.upTo (Text.utf8Length field) n = .ok field := by
          rw [hn, List.append_assoc, Text.upTo_append]
        have hrest : Text.since (Text.utf8Length field + 1) n = .ok rest := by
          have hlen : Text.utf8Length field + 1 = Text.utf8Length (field ++ ['[']) := by simp; rfl
          rw [hn, hlen, Text.since_append]
        simp only [Option.map_some, hfield, hrest, Checked.ok_bind]
        rfl
    · rw [if_pos (by simp [hname]), if_neg hname]

theorem readBytes_eq (t : Text) : readBytes t
    = .ok ((read? t).map fun (p, rest) => (p, Text.utf8Length t - Text.utf8Length rest)) := by
  rw [readBytes, read?]
  rcases hbody : Text.stripPrefix? ['{', '{'] t with _ | body
  · rfl
  · obtain rfl := Text.eq_append_of_stripPrefix? hbody
    simp only [Text.find?, Option.bind_eq_bind, Option.bind_some]
    rcases hbreak : Text.breakOn? ['}', '}'] body with _ | ⟨name, rest⟩
    · rfl
    · obtain rfl := Text.eq_append_of_breakOn? hbreak
      have hname : Text.upTo (Text.utf8Length name) (name ++ ['}', '}'] ++ rest) = .ok name := by
        rw [List.append_assoc, Text.upTo_append]
      have hlen : Text.utf8Length (['{', '{'] ++ (name ++ ['}', '}'] ++ rest))
          - Text.utf8Length rest = 2 + Text.utf8Length name + 2 := by
        have hbrace : '{'.utf8Size = 1 ∧ '}'.utf8Size = 1 := ⟨rfl, rfl⟩
        simp only [Text.utf8Length_append, Text.utf8Length_cons, Text.utf8Length_nil, hbrace]
        omega
      simp only [Option.map_some, hname, ofNameBytes_eq, Checked.ok_bind, Option.bind_some]
      cases ofName? name with
      | none => rfl
      | some p =>
        exact congrArg (fun len => (.ok (some (p, len)) : Checked (Option (Placeholder × Nat))))
          hlen.symm

theorem pos_of_readBytes {t : Text} {p : Placeholder} {len : Nat}
    (h : readBytes t = .ok (some (p, len))) : 0 < len := by
  rw [readBytes_eq, Except.ok.injEq, Option.map_eq_some_iff] at h
  obtain ⟨⟨p', rest⟩, hread, heq⟩ := h
  obtain ⟨name, rfl, _⟩ := exists_name_of_read? hread
  obtain ⟨-, rfl⟩ := Prod.mk.inj heq
  have hbrace : '{'.utf8Size = 1 := rfl
  simp only [Text.utf8Length_append, Text.utf8Length_cons, hbrace]
  omega

end Placeholder

namespace Tag

/-- The tag that starts a text, with the number of its bytes. -/
def readBytes (t : Text) : Option (Tag × Nat) :=
  (all.find? fun g => (Text.stripPrefix? g.text t).isSome).map fun g => (g, Text.utf8Length g.text)

theorem readBytes_eq (t : Text) :
    readBytes t = (read? t).map fun (g, rest) => (g, Text.utf8Length t - Text.utf8Length rest) := by
  rw [readBytes, read?]
  induction all with
  | nil => rfl
  | cons g gs ih =>
    rw [List.find?_cons, List.findSome?_cons]
    rcases hstrip : Text.stripPrefix? g.text t with _ | rest
    · exact ih
    · rw [Text.eq_append_of_stripPrefix? hstrip, Text.utf8Length_append]
      simp

end Tag

namespace Token

/-- The placeholder or the tag at a byte, with the number of its bytes. -/
def markBytes (pos : Nat) (t : Text) : Checked (Option (Token × Nat)) := do
  let byte ← Text.byteAt pos t
  if byte = '{'.toUInt8 then
    let rest ← Text.since pos t
    return (← Placeholder.readBytes rest).map fun (p, len) => (placeholder p, len)
  else if byte = '~'.toUInt8 then
    let rest ← Text.since pos t
    return (Tag.readBytes rest).map fun (g, len) => (tag g, len)
  else return none

/-- **Where a character starts** the mark is the one that starts the text there. -/
theorem markBytes_eq (s : Text) (c : Char) (t : Text) :
    markBytes (Text.utf8Length s) (s ++ c :: t) = .ok ((readMark? (c :: t)).map fun (token, rest) =>
      (token, Text.utf8Length (c :: t) - Text.utf8Length rest)) := by
  obtain ⟨b, hb, hascii⟩ := Text.exists_byteAt s t c.utf8Size_pos
  have hopen := (hascii '{' (by decide)).trans (and_iff_right rfl)
  have htilde := (hascii '~' (by decide)).trans (and_iff_right rfl)
  rw [Nat.add_zero] at hb
  rw [markBytes, hb, Checked.ok_bind, Text.since_append]
  by_cases hc : c = '{'
  · rw [if_pos (hopen.2 hc), Checked.ok_bind, Placeholder.readBytes_eq, hc, readMark?]
    cases Placeholder.read? ('{' :: t) <;> rfl
  · rw [if_neg (mt hopen.1 hc)]
    by_cases hc' : c = '~'
    · rw [if_pos (htilde.2 hc'), Checked.ok_bind, Tag.readBytes_eq, hc', readMark?]
      cases Tag.read? ('~' :: t) <;> rfl
    · have hnone : readMark? (c :: t) = none := by
        unfold readMark?
        split
        · next h => exact absurd (List.cons.inj h).1 hc
        · next h => exact absurd (List.cons.inj h).1 hc'
        · rfl
      rw [if_neg (mt htilde.1 hc'), hnone]
      rfl

/-- **Inside a character** there is no mark, and nothing is cut. -/
theorem markBytes_inside (s : Text) {c : Char} (t : Text) {k : Nat} (hpos : 0 < k)
    (hk : k < c.utf8Size) : markBytes (Text.utf8Length s + k) (s ++ c :: t) = .ok none := by
  obtain ⟨b, hb, hascii⟩ := Text.exists_byteAt s t hk
  have hne : ∀ d : Char, d.toNat < 128 → b ≠ d.toUInt8 := fun d hd h =>
    Nat.ne_of_gt hpos ((hascii d hd).1 h).1
  rw [markBytes, hb, Checked.ok_bind, if_neg (hne '{' (by decide)), if_neg (hne '~' (by decide))]
  rfl

theorem pos_of_markBytes {pos len : Nat} {t : Text} {token : Token}
    (h : markBytes pos t = .ok (some (token, len))) : 0 < len := by
  rw [markBytes] at h
  obtain ⟨b, -, h⟩ := Checked.bind_eq_ok_iff.1 h
  split at h
  · obtain ⟨rest, -, h⟩ := Checked.bind_eq_ok_iff.1 h
    obtain ⟨mark, hmark, h⟩ := Checked.bind_eq_ok_iff.1 h
    obtain ⟨⟨p, len'⟩, rfl, heq⟩ := Option.map_eq_some_iff.1 (Except.ok.inj h)
    cases heq
    exact Placeholder.pos_of_readBytes hmark
  · split at h
    · obtain ⟨rest, -, h⟩ := Checked.bind_eq_ok_iff.1 h
      obtain ⟨⟨g, len'⟩, hread, heq⟩ := Option.map_eq_some_iff.1 (Except.ok.inj h)
      obtain ⟨g', -, heq'⟩ := Option.map_eq_some_iff.1 hread
      cases heq
      cases heq'
      exact Nat.pos_of_ne_zero (mt Text.utf8Length_eq_zero.1 g.text_ne_nil)
    · cases h

/-! ## Templates -/

/-- The literal text between two bytes, if there is any. -/
def literalBytes (start stop : Nat) (t : Text) : Checked (List Token) :=
  if start < stop then (fun text => [literal text]) <$> Text.between start stop t else .ok []

/-- The tokens of a template from a byte on; literal text is pending since an earlier one. -/
def scanBytesFrom (t : Text) (start pos : Nat) : Checked (List Token) :=
  if pos < (Text.utf8 t).length then
    match h : markBytes pos t with
    | .error fault => .error fault
    | .ok none => scanBytesFrom t start (pos + 1)
    | .ok (some (token, len)) =>
      have := pos_of_markBytes h
      do
        let before ← literalBytes start pos t
        let after ← scanBytesFrom t (pos + len) (pos + len)
        return before ++ token :: after
  else if start < (Text.utf8 t).length then (fun text => [literal text]) <$> Text.since start t
  else .ok []
termination_by (Text.utf8 t).length - pos

/-- **The tokens of a template**, found and cut out of it by their bytes. -/
def scanBytes (t : Text) : Checked (List Token) := scanBytesFrom t 0 0

theorem scanBytesFrom_of_none {t : Text} {start pos : Nat} (hpos : pos < (Text.utf8 t).length)
    (h : markBytes pos t = .ok none) :
    scanBytesFrom t start pos = scanBytesFrom t start (pos + 1) := by
  rw [scanBytesFrom, if_pos hpos]
  split
  · next h' => rw [h] at h'; cases h'
  · rfl
  · next h' => rw [h] at h'; cases h'

theorem scanBytesFrom_of_mark {t : Text} {start pos len : Nat} {token : Token}
    (hpos : pos < (Text.utf8 t).length) (h : markBytes pos t = .ok (some (token, len))) :
    scanBytesFrom t start pos = literalBytes start pos t >>= fun before =>
      scanBytesFrom t (pos + len) (pos + len) >>= fun after =>
        .ok (before ++ token :: after) := by
  rw [scanBytesFrom, if_pos hpos]
  split
  · next h' => rw [h] at h'; cases h'
  · next h' => rw [h] at h'; cases h'
  · next h' =>
    rw [h] at h'
    cases h'
    rfl

/-- The bytes of a character are passed one by one. -/
theorem scanBytesFrom_inside (s : Text) (c : Char) (t : Text) (start : Nat) {k : Nat} (hpos : 1 ≤ k)
    (hk : k ≤ c.utf8Size) : scanBytesFrom (s ++ c :: t) start (Text.utf8Length s + 1)
      = scanBytesFrom (s ++ c :: t) start (Text.utf8Length s + k) := by
  induction k, hpos using Nat.le_induction with
  | base => rfl
  | succ k hpos ih =>
    rw [ih (by omega), scanBytesFrom_of_none (Text.lt_length_utf8 s t hk)
      (markBytes_inside s t hpos hk), Nat.add_assoc]

theorem foldr_consChar_nil {m : Text} (hm : m ≠ []) : m.foldr consChar [] = [literal m] := by
  induction m with
  | nil => exact absurd rfl hm
  | cons c m ih =>
    cases m with
    | nil => rfl
    | cons d m => rw [List.foldr_cons, ih (List.cons_ne_nil d m)]; rfl

theorem foldr_consChar_cons {token : Token} (h : token.isLiteral = false) (tokens : List Token)
    (m : Text) : m.foldr consChar (token :: tokens) = m.foldr consChar [] ++ token :: tokens := by
  induction m with
  | nil => rfl
  | cons c m ih => rw [List.foldr_cons, List.foldr_cons, ih, consChar_append h]

/-- Literal text that is pending ends where a mark starts. -/
theorem literalBytes_eq (s m t : Text) :
    literalBytes (Text.utf8Length s) (Text.utf8Length (s ++ m)) (s ++ m ++ t)
      = .ok (m.foldr consChar []) := by
  rw [literalBytes, Text.between_append, Text.utf8Length_append]
  by_cases hm : m = []
  · rw [hm, if_neg (by simp)]
    rfl
  · have hpos := Nat.pos_of_ne_zero (mt Text.utf8Length_eq_zero.1 hm)
    rw [if_pos (by omega), foldr_consChar_nil hm]
    rfl

/-- **Scanning from the start of a character on**: the characters that are pending stand in front of
the first token, when it is literal, or are a token of their own. -/
theorem scanBytesFrom_eq (r s m : Text) :
    scanBytesFrom (s ++ m ++ r) (Text.utf8Length s) (Text.utf8Length (s ++ m))
      = .ok (m.foldr consChar (scan r)) := by
  fun_induction scan r generalizing s m with
  | case1 =>
    rw [List.append_nil, scanBytesFrom, Text.length_utf8, if_neg (lt_irrefl _), Text.since_append,
      Text.utf8Length_append]
    by_cases hm : m = []
    · rw [hm, if_neg (by simp)]
      rfl
    · have hpos := Nat.pos_of_ne_zero (mt Text.utf8Length_eq_zero.1 hm)
      rw [if_pos (by omega), foldr_consChar_nil hm]
      rfl
  | case2 c t token rest hread _ ih =>
    obtain ⟨w, hmark, hw⟩ := readMark?_eq_some.1 hread
    have hlt : Text.utf8Length (s ++ m) < _ := Text.lt_length_utf8 (s ++ m) t c.utf8Size_pos
    have hlen : Text.utf8Length (c :: t) - Text.utf8Length rest = Text.utf8Length w := by
      rw [hw, Text.utf8Length_append, Nat.add_sub_cancel]
    have hbytes := markBytes_eq (s ++ m) c t
    rw [hread, Option.map_some] at hbytes
    dsimp only at hbytes
    rw [hlen] at hbytes
    have hrest := ih (s ++ m ++ w) []
    rw [List.append_nil, List.append_assoc (s ++ m), ← hw, Text.utf8Length_append (s ++ m)] at hrest
    rw [scanBytesFrom_of_mark hlt hbytes, literalBytes_eq, hrest,
      foldr_consChar_cons hmark.not_isLiteral]
    rfl
  | case3 c t hread ih =>
    have hlt : Text.utf8Length (s ++ m) < _ := Text.lt_length_utf8 (s ++ m) t c.utf8Size_pos
    have hbytes := markBytes_eq (s ++ m) c t
    rw [hread, Option.map_none] at hbytes
    have hrest := ih s (m ++ [c])
    have hlen : Text.utf8Length (s ++ (m ++ [c])) = Text.utf8Length (s ++ m) + c.utf8Size := by
      simp [Nat.add_assoc]
    have hassoc : s ++ (m ++ [c]) ++ t = s ++ m ++ c :: t := by simp
    rw [hassoc, hlen, List.foldr_append] at hrest
    rw [scanBytesFrom_of_none hlt hbytes,
      scanBytesFrom_inside (s ++ m) c t _ c.utf8Size_pos le_rfl, hrest]
    rfl

/-- **Scanning by bytes never fails**, and finds the tokens of the template. -/
theorem scanBytes_eq (t : Text) : scanBytes t = .ok (scan t) := scanBytesFrom_eq t [] []

end Token

end Conveyance
