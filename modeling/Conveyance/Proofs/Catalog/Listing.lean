import Conveyance.Catalog.Listing
import Conveyance.Proofs.Scan
import Mathlib.Data.List.Nodup

/-!
# Proofs/Catalog/Listing — the listing and the scanner know the same placeholders

A `Placeholder.Family` is a placeholder without the number of its entry, which is what a line of the
listing stands for: `Family.listed?` is that line, and `filterMap_listed?_all` says that there are
no others.  **A word between braces is scanned as one placeholder exactly when a line is written that
way**, its `[n]` filled in with digits, and then the line is the one of the placeholder's family
(`scan_braced_listing`).
-/

namespace Conveyance

open ListingEntry (braced humanized)

/-- **What a line of the listing is written as**: its token, where `[n]` stands for any number. -/
def ListingEntry.Written (e : ListingEntry) (t : Text) : Prop :=
  match Text.breakOn? "[n]".toList e.token with
  | some (before, after) =>
    ∃ digits, Text.isDigits digits = true ∧ t = before ++ '[' :: digits ++ ']' :: after
  | none => t = e.token

theorem ListingEntry.braced_inj {s t : Text} : braced s = braced t ↔ s = t := by
  simp [braced]

namespace Placeholder

/-- A placeholder, whatever the number of its entry. -/
inductive Family where
  | scalar (field : Scalar)
  | current (field : CurrentField)
  /-- The cells of a column, counted from 0. -/
  | cells (collection : Collection) (column : Nat)
  | table (collection : Collection)
  | total (collection : Collection)
  | count (collection : Collection)
  deriving DecidableEq, Repr

/-- The family of a placeholder. -/
def family : Placeholder → Family
  | scalar f => .scalar f
  | current f => .current f
  | cell c column _ => .cells c column
  | table c => .table c
  | total c => .total c
  | count c => .count c

namespace Family

/-- What is listed for a collection, in the order of the listing. -/
def ofCollection (c : Collection) : List Family :=
  (List.range c.columns.length).map (cells c) ++ [table c] ++
    (if c.amountColumn?.isSome then [total c] else []) ++ [count c]

/-- Every family that is listed, in the order of the listing. -/
def all : List Family :=
  Scalar.all.map scalar ++ CurrentField.all.map current ++ Collection.all.flatMap ofCollection

/-- **The line of the listing for a family**; a column that does not exist has none, and neither has
the total of a collection without amounts. -/
def listed? : Family → Option ListingEntry
  | scalar f => some (.ofScalar f)
  | current f => some (.ofCurrentField f)
  | cells c column => c.columns[column]?.map (.ofColumn c)
  | table c => some ⟨braced (c.plural ++ "_TABLE".toList), humanized c.plural,
      "Table of all ".toList ++ Text.asciiLower (humanized c.plural)⟩
  | total c =>
    if c.amountColumn?.isSome then
      some ⟨braced ("TOTAL_".toList ++ c.plural ++ "_AMOUNT".toList), humanized c.plural,
        "Sum of all amounts".toList⟩
    else none
  | count c => some ⟨braced (c.plural ++ "_COUNT".toList), humanized c.plural,
      "Number of entries".toList⟩

theorem filterMap_listed?_ofCollection (c : Collection) :
    (ofCollection c).filterMap listed? = ListingEntry.ofCollection c := by
  cases c <;> rfl

/-- **The listing is made of the lines of the families.** -/
theorem filterMap_listed?_all : all.filterMap listed? = listing := by
  rw [all, List.filterMap_append, List.filterMap_append, List.filterMap_flatMap]
  simp only [filterMap_listed?_ofCollection]
  rfl

theorem mem_all_of_listed? {f : Family} {e : ListingEntry} (h : f.listed? = some e) : f ∈ all := by
  cases f with
  | scalar f => cases f <;> decide
  | current f => cases f <;> decide
  | cells c column =>
    obtain ⟨col, hcol, _⟩ := Option.map_eq_some_iff.1 h
    obtain ⟨hlt, _⟩ := List.getElem?_eq_some_iff.1 hcol
    have hall : ∀ column < c.columns.length, cells c column ∈ all := by cases c <;> decide
    exact hall column hlt
  | table c => cases c <;> decide
  | total c =>
    have hamount : c.amountColumn?.isSome = true := by
      rw [listed?] at h
      split at h
      · assumption
      · cases h
    have hall : c.amountColumn?.isSome = true → total c ∈ all := by cases c <;> decide
    exact hall hamount
  | count c => cases c <;> decide

/-- A line is listed just when it is the line of a family. -/
theorem mem_listing_iff {e : ListingEntry} : e ∈ listing ↔ ∃ f : Family, f.listed? = some e := by
  rw [← filterMap_listed?_all, List.mem_filterMap]
  exact ⟨fun ⟨f, _, h⟩ => ⟨f, h⟩, fun ⟨f, h⟩ => ⟨f, mem_all_of_listed? h, h⟩⟩

/-! ## What a line is written as -/

/-- A line without a bracket is written as its token only. -/
theorem written_iff_of_notMem {e : ListingEntry} {name t : Text} (htoken : e.token = braced name)
    (h : '[' ∉ name) : e.Written t ↔ t = braced name := by
  have hmem : '[' ∉ braced name := by simpa [braced] using h
  have hbreak : Text.breakOn? "[n]".toList (braced name) = none :=
    Text.breakOn?_of_notMem ['n', ']'] hmem
  rw [ListingEntry.Written, htoken, hbreak]

/-- **The line of a column is written with the number of an entry in the bracket.** -/
theorem written_ofColumn_iff {c : Collection} {column : Nat} {col : Column}
    (hcol : c.columns[column]? = some col) {t : Text} :
    (ListingEntry.ofColumn c col).Written t ↔ ∃ digits, Text.isDigits digits = true ∧
      t = braced (c.singular ++ '_' :: col.key ++ '[' :: digits ++ [']']) := by
  have hbracket := (ofField?_of_column hcol).2.2
  have hmem : '[' ∉ ['{', '{'] ++ (c.singular ++ '_' :: col.key) := by simpa using hbracket
  have htoken : (ListingEntry.ofColumn c col).token
      = ['{', '{'] ++ (c.singular ++ '_' :: col.key) ++ "[n]".toList ++ ['}', '}'] := by
    simp [ListingEntry.ofColumn, braced]
  have hbreak : Text.breakOn? "[n]".toList
      (['{', '{'] ++ (c.singular ++ '_' :: col.key) ++ "[n]".toList ++ ['}', '}'])
        = some (['{', '{'] ++ (c.singular ++ '_' :: col.key), ['}', '}']) :=
    Text.breakOn?_append ['n', ']'] ['}', '}'] hmem
  rw [ListingEntry.Written, htoken, hbreak]
  simp [braced]

/-- A family with one name only. -/
theorem written_iff_of_name {f : Family} {e : ListingEntry} (name : Text) {s : Text}
    {p : Placeholder} (htoken : e.token = braced name) (hbracket : '[' ∉ name) (hp : Denotes name p)
    (hfamily : p.family = f) (honly : ∀ p', Denotes s p' → p'.family = f → s = name) :
    e.Written (braced s) ↔ ∃ p', Denotes s p' ∧ p'.family = f := by
  rw [written_iff_of_notMem htoken hbracket, ListingEntry.braced_inj]
  constructor
  · rintro rfl
    exact ⟨p, hp, hfamily⟩
  · rintro ⟨p', hp', hfamily'⟩
    exact honly p' hp' hfamily'

/-- **The texts that a line is written as are the names of its family**, between braces. -/
theorem written_iff_denotes {f : Family} {e : ListingEntry} (h : f.listed? = some e) (s : Text) :
    e.Written (braced s) ↔ ∃ p, Denotes s p ∧ p.family = f := by
  cases f with
  | scalar g =>
    obtain rfl := Option.some.inj h
    refine written_iff_of_name g.name rfl ?_ (.scalar g) rfl fun p hp hfamily => ?_
    · cases g <;> decide
    · cases hp <;> cases hfamily
      rfl
  | current g =>
    obtain rfl := Option.some.inj h
    refine written_iff_of_name g.name rfl ?_ (.current g) rfl fun p hp hfamily => ?_
    · cases g <;> decide
    · cases hp <;> cases hfamily
      rfl
  | cells c column =>
    obtain ⟨col, hcol, rfl⟩ := Option.map_eq_some_iff.1 h
    rw [written_ofColumn_iff hcol]
    constructor
    · rintro ⟨digits, hdigits, hs⟩
      obtain rfl := ListingEntry.braced_inj.1 hs
      exact ⟨_, .cell hcol hdigits, rfl⟩
    · rintro ⟨p, hp, hfamily⟩
      cases hp <;> cases hfamily
      next col' digits hdigits hcol' =>
        obtain rfl := Option.some.inj (hcol.symm.trans hcol')
        exact ⟨digits, hdigits, rfl⟩
  | table c =>
    obtain rfl := Option.some.inj h
    refine written_iff_of_name (c.plural ++ "_TABLE".toList) rfl ?_ (.table c) rfl
      fun p hp hfamily => ?_
    · cases c <;> decide
    · cases hp <;> cases hfamily
      rfl
  | total c =>
    rw [listed?] at h
    split at h
    · next hamount =>
      obtain ⟨col, hcol, hkey⟩ := isSome_amountColumn?.1 hamount
      obtain rfl := Option.some.inj h
      refine written_iff_of_name ("TOTAL_".toList ++ c.plural ++ "_AMOUNT".toList) rfl ?_
        (.total hcol hkey) rfl fun p hp hfamily => ?_
      · cases c <;> decide
      · cases hp <;> cases hfamily
        rfl
    · cases h
  | count c =>
    obtain rfl := Option.some.inj h
    refine written_iff_of_name (c.plural ++ "_COUNT".toList) rfl ?_ (.count c) rfl
      fun p hp hfamily => ?_
    · cases c <;> decide
    · cases hp <;> cases hfamily
      rfl

/-- Every placeholder is listed. -/
theorem exists_listed?_of_denotes {s : Text} {p : Placeholder} (h : Denotes s p) :
    ∃ e, p.family.listed? = some e := by
  cases h with
  | cell hcol _ => exact ⟨_, Option.map_eq_some_iff.2 ⟨_, hcol, rfl⟩⟩
  | total hcol hkey => exact ⟨_, if_pos (isSome_amountColumn?.2 ⟨_, hcol, hkey⟩)⟩
  | _ => exact ⟨_, rfl⟩

/-- Every line is written somehow. -/
theorem exists_written {f : Family} {e : ListingEntry} (h : f.listed? = some e) :
    ∃ s, e.Written (braced s) := by
  suffices hname : ∃ s p, Denotes s p ∧ p.family = f by
    obtain ⟨s, hs⟩ := hname
    exact ⟨s, (written_iff_denotes h s).2 hs⟩
  cases f with
  | scalar g => exact ⟨_, _, .scalar g, rfl⟩
  | current g => exact ⟨_, _, .current g, rfl⟩
  | cells c column =>
    obtain ⟨col, hcol, _⟩ := Option.map_eq_some_iff.1 h
    exact ⟨_, _, .cell hcol (rfl : Text.isDigits ['0'] = true), rfl⟩
  | table c => exact ⟨_, _, .table c, rfl⟩
  | total c =>
    rw [listed?] at h
    split at h
    · next hamount =>
      obtain ⟨col, hcol, hkey⟩ := isSome_amountColumn?.1 hamount
      exact ⟨_, _, .total hcol hkey, rfl⟩
    · cases h
  | count c => exact ⟨_, _, .count c, rfl⟩

/-- **Two families have two tokens**: a text that both were written as would name two placeholders. -/
theorem eq_of_token_eq {f f' : Family} {e e' : ListingEntry} (h : f.listed? = some e)
    (h' : f'.listed? = some e') (htoken : e.token = e'.token) : f = f' := by
  obtain ⟨s, hs⟩ := exists_written h
  have hs' : e'.Written (braced s) := by
    rw [ListingEntry.Written] at hs ⊢
    rwa [← htoken]
  obtain ⟨p, hname, rfl⟩ := (written_iff_denotes h s).1 hs
  obtain ⟨p', hname', rfl⟩ := (written_iff_denotes h' s).1 hs'
  rw [hname.unique hname']

/-- No two lines of the listing have the same token. -/
theorem nodup_tokens : (listing.map (·.token)).Nodup := by
  have hall : all.Nodup := by decide +kernel
  rw [← filterMap_listed?_all, List.map_filterMap]
  refine List.Nodup.filterMap (fun f f' token hf hf' => ?_) hall
  obtain ⟨e, he, hetoken⟩ := Option.map_eq_some_iff.1 hf
  obtain ⟨e', he', hetoken'⟩ := Option.map_eq_some_iff.1 hf'
  exact eq_of_token_eq he he' (hetoken.trans hetoken'.symm)

end Family

end Placeholder

/-! ## The scanner and the listing -/

namespace Token

/-- A word between braces is one placeholder when it is a name of it. -/
theorem scan_braced_iff {s : Text} {p : Placeholder} :
    scan (braced s) = [.placeholder p] ↔ Placeholder.Denotes s p := by
  constructor
  · intro hscan
    obtain ⟨factors, hfactors, hflat⟩ := exists_factors_scan (braced s)
    rw [hscan] at hfactors
    obtain _ | ⟨hfactor, hnil⟩ := hfactors
    cases hnil
    cases hfactor with
    | mark hmark =>
      cases hmark with
      | placeholder hname =>
        rw [List.flatten_singleton] at hflat
        rwa [← ListingEntry.braced_inj.1 hflat]
  · intro hname
    have hscan := scan_append_placeholder hname [] []
    rwa [List.append_nil, List.nil_append, scan_nil] at hscan

/-- **The listing and the scanner know the same placeholders.**  A word between braces is scanned as
one placeholder exactly when a line of the listing is written that way, no two lines have the same
token, and the line that is written that way is the one of the kind, the collection and the column
of the placeholder. -/
theorem scan_braced_listing :
    (∀ s, (∃ p, scan (braced s) = [.placeholder p]) ↔ ∃ e ∈ listing, e.Written (braced s)) ∧
      (listing.map (·.token)).Nodup ∧
      ∀ s p, scan (braced s) = [.placeholder p] → ∀ e ∈ listing, e.Written (braced s) →
        p.family.listed? = some e := by
  refine ⟨fun s => ⟨?_, ?_⟩, Placeholder.Family.nodup_tokens, fun s p hscan e he hwritten => ?_⟩
  · rintro ⟨p, hscan⟩
    have hname := scan_braced_iff.1 hscan
    obtain ⟨e, he⟩ := Placeholder.Family.exists_listed?_of_denotes hname
    exact ⟨e, Placeholder.Family.mem_listing_iff.2 ⟨_, he⟩,
      (Placeholder.Family.written_iff_denotes he s).2 ⟨p, hname, rfl⟩⟩
  · rintro ⟨e, he, hwritten⟩
    obtain ⟨f, hf⟩ := Placeholder.Family.mem_listing_iff.1 he
    obtain ⟨p, hname, _⟩ := (Placeholder.Family.written_iff_denotes hf s).1 hwritten
    exact ⟨p, scan_braced_iff.2 hname⟩
  · obtain ⟨f, hf⟩ := Placeholder.Family.mem_listing_iff.1 he
    obtain ⟨p', hname', hfamily⟩ := (Placeholder.Family.written_iff_denotes hf s).1 hwritten
    rw [(scan_braced_iff.1 hscan).unique hname', hfamily, hf]

/-- A leading zero changes nothing: the line is the one of the column. -/
theorem scan_amount_listed :
    scan (braced "PAYMENT_REQUEST_AMOUNT[07]".toList) = [.placeholder (.cell .requests 2 7)] ∧
      Placeholder.Family.listed? (.cells .requests 2)
        = some (.ofColumn .requests (Collection.shown "AMOUNT" "Amount")) := by
  have hcol : Collection.requests.columns[2]? = some (Collection.shown "AMOUNT" "Amount") := rfl
  have hname : Placeholder.Denotes "PAYMENT_REQUEST_AMOUNT[07]".toList (.cell .requests 2 7) :=
    .cell hcol (rfl : Text.isDigits ['0', '7'] = true)
  have hscan := scan_braced_iff.2 hname
  have he : ListingEntry.ofColumn .requests (Collection.shown "AMOUNT" "Amount") ∈ listing :=
    Placeholder.Family.mem_listing_iff.2 ⟨.cells .requests 2, rfl⟩
  refine ⟨hscan, scan_braced_listing.2.2 _ _ hscan _ he ?_⟩
  exact (Placeholder.Family.written_ofColumn_iff hcol).2 ⟨['0', '7'], rfl, rfl⟩

end Token

end Conveyance
