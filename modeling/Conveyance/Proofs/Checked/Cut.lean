import Conveyance.Text.Basic
import Mathlib.Data.List.Basic
import Mathlib.Tactic.Common

/-!
# Proofs/Checked/Cut — texts cut at bytes

A text is kept in UTF-8, where places are counted in bytes.  Reading a byte needs a place that is
there, and cutting needs one **where a character starts** or the end of the text
(`Text.cutAt_eq_ok_iff`).  A computation whose every such step is looked at is `Checked`: it gives
its result or the first `Fault`.
-/

namespace Conveyance

/-- How a step of a computation can fail. -/
inductive Fault where
  /-- A text is cut inside a character, past its end, or from a place to an earlier one. -/
  | cut
  /-- A list is read at a place that it does not have. -/
  | place
  /-- A value is written by a pattern that cannot write it. -/
  | unwritable
  /-- A number leaves its range. -/
  | overflow
  deriving DecidableEq, Repr

/-- A computation that looks at every step that can fail. -/
abbrev Checked (α : Type) := Except Fault α

namespace Checked

variable {α β : Type}

/-- What is there, or a fault. -/
def ofOption (fault : Fault) : Option α → Checked α
  | some a => .ok a
  | none => .error fault

/-- The element of a list at a place. -/
def read (xs : List α) (i : Nat) : Checked α := ofOption .place xs[i]?

@[simp] theorem ok_bind (a : α) (k : α → Checked β) : ((.ok a : Checked α) >>= k) = k a := rfl

@[simp] theorem map_ok (f : α → β) (a : α) : f <$> (.ok a : Checked α) = .ok (f a) := rfl

theorem map_eq_ok_iff {f : α → β} {x : Checked α} {b : β} :
    f <$> x = .ok b ↔ ∃ a, x = .ok a ∧ f a = b := by
  cases x with
  | error fault => exact iff_of_false (by rintro ⟨⟩) (by simp)
  | ok a => simp

theorem bind_eq_ok_iff {x : Checked α} {k : α → Checked β} {b : β} :
    (x >>= k) = .ok b ↔ ∃ a, x = .ok a ∧ k a = .ok b := by
  cases x with
  | error fault => exact iff_of_false (by rintro ⟨⟩) (by simp)
  | ok a => simp

/-- Steps that all give their results give them in order. -/
theorem mapM_eq_ok {f : α → Checked β} {g : α → β} {xs : List α}
    (h : ∀ x ∈ xs, f x = .ok (g x)) : xs.mapM f = .ok (xs.map g) := by
  induction xs with
  | nil => rfl
  | cons x xs ih =>
    obtain ⟨hx, hxs⟩ := List.forall_mem_cons.1 h
    rw [List.mapM_cons, hx, ih hxs]
    rfl

end Checked

namespace Text

/-! ## Bytes -/

@[simp] theorem utf8Length_nil : utf8Length [] = 0 := rfl

@[simp] theorem utf8Length_cons (c : Char) (t : Text) :
    utf8Length (c :: t) = c.utf8Size + utf8Length t := rfl

@[simp] theorem utf8Length_append (s t : Text) :
    utf8Length (s ++ t) = utf8Length s + utf8Length t := by
  induction s with
  | nil => simp
  | cons c s ih => simp [ih, Nat.add_assoc]

theorem utf8_append (s t : Text) : utf8 (s ++ t) = utf8 s ++ utf8 t := List.flatMap_append

theorem length_utf8 (t : Text) : (utf8 t).length = utf8Length t := by
  induction t with
  | nil => rfl
  | cons c t ih =>
    rw [utf8, List.flatMap_cons, List.length_append, String.length_utf8EncodeChar, utf8Length_cons]
    rw [utf8] at ih
    rw [ih]

/-- A byte of a character is a byte of the text. -/
theorem lt_length_utf8 (s : Text) {c : Char} (t : Text) {k : Nat} (hk : k < c.utf8Size) :
    utf8Length s + k < (utf8 (s ++ c :: t)).length := by
  rw [length_utf8, utf8Length_append, utf8Length_cons]
  omega

theorem utf8Length_eq_zero {t : Text} : utf8Length t = 0 ↔ t = [] := by
  cases t with
  | nil => simp
  | cons c t => simp [Nat.ne_of_gt c.utf8Size_pos]

theorem toNat_toUInt8 {d : Char} (hd : d.toNat < 128) : d.toUInt8.toNat = d.toNat :=
  Nat.mod_eq_of_lt (Nat.lt_trans hd (by decide))

/-- **The bytes of a character**: the first one is that of an ASCII character only when the character
is that one, and those behind it are of no ASCII character. -/
theorem exists_first_byte (c : Char) : ∃ b bs, String.utf8EncodeChar c = b :: bs ∧
    (∀ d : Char, d.toNat < 128 → (b = d.toUInt8 ↔ c = d)) ∧ ∀ b ∈ bs, 128 ≤ b.toNat := by
  have hlarge : ∀ b : UInt8, 128 ≤ b.toNat → 127 < c.val.toNat → ∀ d : Char, d.toNat < 128 →
      (b = d.toUInt8 ↔ c = d) := by
    refine fun b hb hc d hd => iff_of_false (fun h => ?_) (fun h => ?_)
    · rw [h, toNat_toUInt8 hd] at hb
      omega
    · rw [h] at hc
      exact absurd hc (Nat.not_lt.2 (Nat.le_of_lt_succ hd))
  have hc : c.val.toNat < 0x110000 := by
    rcases c.valid with h | h
    · exact Nat.lt_trans h (by decide)
    · exact h.2
  simp only [String.utf8EncodeChar]
  split
  · next h =>
    refine ⟨_, _, rfl, fun d hd => ?_, by simp⟩
    rw [← UInt8.toNat_inj, toNat_toUInt8 hd, UInt8.toNat_ofNat', Nat.mod_eq_of_lt (by omega)]
    exact ⟨fun h => Char.ext (UInt32.toNat_inj.1 h), fun h => by rw [h]; rfl⟩
  · next h =>
    have h := Nat.lt_of_not_le h
    split
    · refine ⟨_, _, rfl, hlarge _ ?_ h, ?_⟩ <;> simp <;> omega
    · split
      · refine ⟨_, _, rfl, hlarge _ ?_ h, ?_⟩ <;> simp <;> omega
      · refine ⟨_, _, rfl, hlarge _ ?_ h, ?_⟩ <;> simp <;> omega

/-- Characters of ASCII are one byte each. -/
theorem utf8Length_of_ascii {t : Text} (h : ∀ c ∈ t, c.toNat < 128) : utf8Length t = t.length := by
  induction t with
  | nil => rfl
  | cons c t ih =>
    obtain ⟨hc, ht⟩ := List.forall_mem_cons.1 h
    have hsize : c.utf8Size = 1 :=
      Char.utf8Size_eq_one_iff.2 (UInt32.le_iff_toNat_le.2 (Nat.le_of_lt_succ hc))
    rw [utf8Length_cons, hsize, ih ht, List.length_cons, Nat.add_comm]

/-- The byte at a place. -/
def byteAt (i : Nat) (t : Text) : Checked UInt8 := Checked.read (utf8 t) i

/-- **A byte of a character in a text** is that of an ASCII character only when it is its first one
and the character is that one. -/
theorem exists_byteAt (s t : Text) {c : Char} {k : Nat} (hk : k < c.utf8Size) :
    ∃ b, byteAt (utf8Length s + k) (s ++ c :: t) = .ok b ∧
      ∀ d : Char, d.toNat < 128 → (b = d.toUInt8 ↔ k = 0 ∧ c = d) := by
  obtain ⟨b, bs, hbytes, hfirst, hrest⟩ := exists_first_byte c
  have hread : byteAt (utf8Length s + k) (s ++ c :: t)
      = Checked.ofOption .place (String.utf8EncodeChar c)[k]? := by
    have hcons : utf8 (c :: t) = String.utf8EncodeChar c ++ utf8 t := List.flatMap_cons
    rw [byteAt, Checked.read, utf8_append, ← length_utf8,
      List.getElem?_append_right (Nat.le_add_right _ _), Nat.add_sub_cancel_left, hcons,
      List.getElem?_append_left (by rwa [String.length_utf8EncodeChar])]
  rw [hread, hbytes]
  cases k with
  | zero => exact ⟨b, rfl, fun d hd => by rw [hfirst d hd]; simp⟩
  | succ k =>
    have hlt : k < bs.length := by
      have hlen := congrArg List.length hbytes
      rw [String.length_utf8EncodeChar, List.length_cons] at hlen
      omega
    refine ⟨bs[k], by rw [List.getElem?_cons_succ, List.getElem?_eq_getElem hlt]; rfl, ?_⟩
    refine fun d hd => iff_of_false (fun h => ?_) (fun h => absurd h.1 (Nat.succ_ne_zero k))
    have hle := hrest bs[k] (List.getElem_mem hlt)
    rw [h, toNat_toUInt8 hd] at hle
    omega

/-! ## Cutting -/

/-- **A text cut at a byte**, which has to be where a character starts or the end of the text. -/
def cutAt : Nat → Text → Checked (Text × Text)
  | 0, t => .ok ([], t)
  | _ + 1, [] => .error .cut
  | n + 1, c :: t =>
    if n + 1 < c.utf8Size then .error .cut
    else (fun (before, after) => (c :: before, after)) <$> cutAt (n + 1 - c.utf8Size) t

/-- **What a cut gives**: two parts that make up the text, the first one as long as was asked for. -/
theorem cutAt_eq_ok_iff {n : Nat} {t before after : Text} :
    cutAt n t = .ok (before, after) ↔ t = before ++ after ∧ utf8Length before = n := by
  fun_induction cutAt n t generalizing before with
  | case1 t =>
    rw [utf8Length_eq_zero, Except.ok.injEq, Prod.mk.injEq]
    constructor
    · rintro ⟨rfl, rfl⟩
      exact ⟨rfl, rfl⟩
    · rintro ⟨rfl, rfl⟩
      exact ⟨rfl, rfl⟩
  | case2 n =>
    refine iff_of_false (by rintro ⟨⟩) ?_
    rintro ⟨h, hlen⟩
    rw [(List.append_eq_nil_iff.1 h.symm).1] at hlen
    cases hlen
  | case3 n c t hlt =>
    refine iff_of_false (by rintro ⟨⟩) ?_
    rintro ⟨h, hlen⟩
    cases before with
    | nil => cases hlen
    | cons d before =>
      obtain rfl := (List.cons.inj h).1
      rw [utf8Length_cons] at hlen
      omega
  | case4 n c t hle ih =>
    rw [Checked.map_eq_ok_iff]
    constructor
    · rintro ⟨⟨before, after⟩, hcut, heq⟩
      cases heq
      obtain ⟨rfl, hlen⟩ := ih.1 hcut
      exact ⟨rfl, by rw [utf8Length_cons]; omega⟩
    · rintro ⟨h, hlen⟩
      cases before with
      | nil => cases hlen
      | cons d before =>
        obtain ⟨rfl, rfl⟩ := List.cons.inj h
        rw [utf8Length_cons] at hlen
        exact ⟨(before, after), ih.2 ⟨rfl, by omega⟩, rfl⟩

theorem cutAt_append (s t : Text) : cutAt (utf8Length s) (s ++ t) = .ok (s, t) :=
  cutAt_eq_ok_iff.2 ⟨rfl, rfl⟩

/-- What stands before a byte. -/
def upTo (n : Nat) (t : Text) : Checked Text := (·.1) <$> cutAt n t

/-- What stands from a byte on. -/
def since (n : Nat) (t : Text) : Checked Text := (·.2) <$> cutAt n t

/-- What stands between two bytes, the second one not before the first. -/
def between (i j : Nat) (t : Text) : Checked Text :=
  if i ≤ j then upTo j t >>= since i else .error .cut

theorem upTo_append (s t : Text) : upTo (utf8Length s) (s ++ t) = .ok s := by
  rw [upTo, cutAt_append, Checked.map_ok]

theorem since_append (s t : Text) : since (utf8Length s) (s ++ t) = .ok t := by
  rw [since, cutAt_append, Checked.map_ok]

theorem between_append (s t u : Text) :
    between (utf8Length s) (utf8Length (s ++ t)) (s ++ t ++ u) = .ok t := by
  rw [between, if_pos (by simp), upTo_append, Checked.ok_bind, since_append]

/-- Between characters of ASCII, places in bytes are places in characters. -/
theorem cutAt_of_ascii {t : Text} (ht : ∀ c ∈ t, c.toNat < 128) {n : Nat} (hn : n ≤ t.length) :
    cutAt n t = .ok (t.take n, t.drop n) := by
  have hlen : utf8Length (t.take n) = n := by
    rw [utf8Length_of_ascii fun c hc => ht c (List.mem_of_mem_take hc), List.length_take_of_le hn]
  exact cutAt_eq_ok_iff.2 ⟨(List.take_append_drop n t).symm, hlen⟩

theorem between_of_ascii {t : Text} (ht : ∀ c ∈ t, c.toNat < 128) {i j : Nat} (hij : i ≤ j)
    (hj : j ≤ t.length) : between i j t = .ok ((t.take j).drop i) := by
  have htake : ∀ c ∈ t.take j, c.toNat < 128 := fun c hc => ht c (List.mem_of_mem_take hc)
  have hi : i ≤ (t.take j).length := by rwa [List.length_take_of_le hj]
  rw [between, if_pos hij, upTo, cutAt_of_ascii ht hj, Checked.map_ok, Checked.ok_bind, since,
    cutAt_of_ascii htake hi, Checked.map_ok]

theorem length_since_lt {n : Nat} {t rest : Text} (hn : 0 < n) (h : since n t = .ok rest) :
    rest.length < t.length := by
  obtain ⟨⟨before, after⟩, hcut, rfl⟩ := Checked.map_eq_ok_iff.1 h
  obtain ⟨rfl, hlen⟩ := cutAt_eq_ok_iff.1 hcut
  have hne : before ≠ [] := fun hnil => Nat.ne_of_gt hn (hlen.symm.trans (utf8Length_eq_zero.2 hnil))
  rw [List.length_append]
  exact Nat.lt_add_of_pos_left (List.length_pos_iff.2 hne)

/-- The byte at which the first occurrence of a word starts. -/
def find? (w t : Text) : Option Nat := (breakOn? w t).map fun parts => utf8Length parts.1

end Text

end Conveyance
