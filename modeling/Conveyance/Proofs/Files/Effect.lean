import Conveyance.Proofs.Exchange
import Conveyance.Proofs.Files.Steps

/-!
# Proofs/Files/Effect — what a request to the file system may change

`FileTree.locate` is the place that a path names by its steps alone, whatever lies on the way; **a path
that leads anywhere leads there** (`location_of_spot`).  `FileTree.Within way places` says of a tree
and a later one that files changed at the given places only, and directories came up on the given
way only.  Every request stays within the places that it names (`answer_within`), so what a course of
action leaves alone is read off its calls.
-/

namespace Conveyance

section Steps

variable {ε α β : Type}

theorem exists_of_bind_ok {x : Except ε α} {f : α → Except ε β} {b : β} (h : (x >>= f) = .ok b) :
    ∃ a, x = .ok a ∧ f a = .ok b := by
  cases x with
  | error e => cases h
  | ok a => exact ⟨a, rfl, h⟩

theorem ok_bind (a : α) (f : α → Except ε β) : (Except.ok a >>= f) = f a := rfl

theorem of_guard_ok {c : Prop} [Decidable c] {e : ε} {f : PUnit → Except ε β} {b : β}
    (h : (if c then throw e >>= f else f ⟨⟩) = .ok b) : ¬c ∧ f ⟨⟩ = .ok b := by
  by_cases hc : c
  · rw [if_pos hc] at h
    cases h
  · rw [if_neg hc] at h
    exact ⟨hc, h⟩

end Steps

/-! ## The way up -/

/-- The paths that one passes going up from a path, itself included. -/
inductive Path.Above (p : Text) : Text → Prop where
  | self : Above p p
  | up {q r : Text} (h : Above p q) (hr : Path.parent? q = some r) : Above p r

theorem Path.Above.of_parent? {p q r : Text} (hq : Path.parent? p = some q) (h : Path.Above q r) :
    Path.Above p r := by
  induction h with
  | self => exact .up .self hq
  | up _ hr ih => exact .up ih hr

/-- What is above a path is a beginning of it, and takes a beginning of its steps. -/
theorem Path.Above.isPrefix {p q : Text} (h : Path.Above p q) :
    q <+: p ∧ Path.steps q <+: Path.steps p := by
  induction h with
  | self => exact ⟨List.prefix_rfl, List.prefix_rfl⟩
  | up _ hr ih =>
    obtain ⟨htext, hsteps, -⟩ := Path.of_parent? hr
    exact ⟨htext.trans ih.1, hsteps.trans ih.2⟩

namespace FileTree

variable {t t' t'' : FileTree} {path : Text} {way way' places places' : Location → Prop}

/-! ## The place that a path names -/

/-- One step: up, or into a place. -/
def turn (dir : Location) (name : Text) : Location :=
  if name = ['.', '.'] then dir.dropLast else dir ++ [name]

/-- The directory where a path starts: the root, or the one that relative paths start from. -/
def start (here : Location) (path : Text) : Location := if Path.isAbsolute path then [] else here

/-- **The place that a path names.** -/
def locate (here : Location) (path : Text) : Location :=
  (Path.steps path).foldl turn (start here path)

/-- Steps that do not go up lead into places. -/
theorem foldl_turn {names : List Text} (h : ['.', '.'] ∉ names) (dir : Location) :
    names.foldl turn dir = dir ++ names := by
  induction names generalizing dir with
  | nil => rw [List.foldl_nil, List.append_nil]
  | cons name names ih =>
    rw [List.foldl_cons, turn, if_neg (Ne.symm (List.ne_of_not_mem_cons h)),
      ih (List.not_mem_of_not_mem_cons h), List.append_assoc, List.singleton_append]

/-- **An ordinary name below a directory** leads to its steps below the place of the directory. -/
theorem locate_joined {name : Text} (h : Path.Ordinary name) (here : Location) (dir : Text) :
    locate here (Path.joined dir name) = locate here dir ++ Path.steps name := by
  rw [locate, Path.steps_joined h.opening, List.foldl_append, start,
    Path.isAbsolute_congr (Path.opening_joined h.opening dir), foldl_turn h.up_notMem]
  rfl

/-- A place holds no names but those that lead to it. -/
theorem mem_of_mem_foldl_turn {names : List Text} {dir : Location} {name : Text}
    (h : name ∈ names.foldl turn dir) : name ∈ dir ∨ name ∈ names := by
  induction names generalizing dir with
  | nil => exact .inl h
  | cons next names ih =>
    rcases ih h with hturn | hmem
    · unfold turn at hturn
      split at hturn
      · exact .inl (List.dropLast_subset dir hturn)
      · rcases List.mem_append.1 hturn with hdir | hnext
        · exact .inl hdir
        · exact .inr (List.mem_cons.2 (.inl (List.mem_singleton.1 hnext)))
    · exact .inr (List.mem_cons_of_mem next hmem)

theorem start_subset (here : Location) (path : Text) : start here path ⊆ here := by
  unfold start
  split
  · exact List.nil_subset here
  · exact List.Subset.refl here

/-- Steps that lead somewhere lead to the place that they name. -/
theorem foldlM_step {names : List Text} {dir place : Location}
    (h : names.foldlM t.step dir = .ok place) :
    place = (names.filter (· != ['.'])).foldl turn dir := by
  induction names generalizing dir with
  | nil => exact (Except.ok.inj h).symm
  | cons name names ih =>
    rw [List.foldlM_cons] at h
    obtain ⟨next, hnext, hrest⟩ := exists_of_bind_ok h
    rw [ih hrest]
    unfold step at hnext
    by_cases hdot : name = ['.']
    · rw [if_pos hdot] at hnext
      rw [List.filter_cons_of_neg (by simp [hdot]), Except.ok.inj hnext]
    · rw [List.filter_cons_of_pos (by simp [hdot]), List.foldl_cons, turn]
      rw [if_neg hdot] at hnext
      split_ifs at hnext ⊢ with hup hlong
      · rw [Except.ok.inj hnext]
      · split at hnext
        · cases hnext
        · cases hnext
        · rw [Except.ok.inj hnext]

theorem filter_names (path : Text) : (names path).filter (· != ['.']) = Path.steps path := by
  rw [names, Path.steps, List.filter_filter]
  refine List.filter_congr fun name _ => ?_
  rw [Path.isStep, Bool.and_comm]

/-- **A path that leads anywhere leads to the place that it names.** -/
theorem location_of_spot {s : Spot} (h : t.spot path = .ok s) : s.location = locate t.here path := by
  have hstart : (if Path.isAbsolute path then [] else t.here) = start t.here path := rfl
  unfold spot at h
  rw [hstart] at h
  split_ifs at h
  dsimp only at h
  rw [locate, ← filter_names]
  split at h
  · next hnone =>
    rw [← Except.ok.inj h, List.getLast?_eq_none_iff.1 hnone]
    exact List.append_nil _
  · next last hlast =>
    obtain ⟨dir, hdir, hrest⟩ := exists_of_bind_ok h
    obtain ⟨upper, hnames⟩ := List.getLast?_eq_some_iff.1 hlast
    rw [hnames, List.dropLast_concat] at hdir
    rw [hnames, List.filter_append, List.foldl_append, ← foldlM_step hdir]
    split_ifs at hrest with hdots hlong
    · obtain ⟨place, hplace, hs⟩ := exists_of_bind_ok hrest
      rw [← Except.ok.inj hs]
      have hsingle : [last].foldlM t.step dir = .ok place := by
        rw [List.foldlM_cons, hplace]
        rfl
      simpa [Spot.location] using foldlM_step hsingle
    · rw [← Except.ok.inj hrest]
      have hne : last ≠ ['.'] ∧ last ≠ ['.', '.'] := by simpa using hdots
      simp [Spot.location, turn, hne.1, hne.2]

/-! ## What a change does -/

theorem ne_directory_of_file {q : Location} {bytes : List UInt8} {runnable : Bool}
    (h : t.node? q = some (.file bytes runnable)) : t.node? q ≠ some .directory := by
  rw [h]
  simp

/-- **A file that is read** lies where the path leads. -/
theorem read_eq_ok_iff {bytes : List UInt8} : t.read path = .ok bytes ↔
    ∃ s, t.spot path = .ok s ∧ s.slash = false ∧
      ∃ runnable, t.node? s.location = some (.file bytes runnable) := by
  constructor
  · intro h
    obtain ⟨node, hfind, hnode⟩ := exists_of_bind_ok h
    obtain ⟨s, hs, hfind⟩ := exists_of_bind_ok hfind
    refine ⟨s, hs, ?_⟩
    split at hfind
    · cases hfind
    · obtain rfl := Except.ok.inj hfind
      cases hnode
    · next bytes' runnable hfile =>
      split at hfind
      · cases hfind
      · next hslash =>
        obtain rfl := Except.ok.inj hfind
        obtain rfl := Except.ok.inj hnode
        exact ⟨Bool.not_eq_true _ ▸ hslash, runnable, hfile⟩
  · rintro ⟨s, hs, hslash, runnable, hfile⟩
    have hfind : t.find path = .ok (.file bytes runnable) := by
      rw [find, hs, ok_bind, hfile, hslash]
      rfl
    rw [read, hfind]
    rfl

theorem of_write {bytes : List UInt8} (h : t.write path bytes = .ok t') :
    ∃ runnable, t' = t.put (locate t.here path) (.file bytes runnable) ∧
      t.node? (locate t.here path) ≠ some .directory := by
  obtain ⟨s, hs, h⟩ := exists_of_bind_ok h
  obtain ⟨-, h⟩ := of_guard_ok h
  rw [← location_of_spot hs]
  dsimp only at h
  split at h
  · cases h
  · next runnable hnode =>
    exact ⟨runnable, (Except.ok.inj h).symm, ne_directory_of_file hnode⟩
  · next hnode => exact ⟨false, (Except.ok.inj h).symm, by rw [hnode]; simp⟩

/-- A path that does not ask for a directory ends with a name that fits. -/
theorem fits_of_spot {s : Spot} (h : t.spot path = .ok s) (hslash : s.slash = false) :
    ∃ name, s.name? = some name ∧ Text.utf8Length name ≤ longestName := by
  have hstart : (if Path.isAbsolute path then [] else t.here) = start t.here path := rfl
  unfold spot at h
  rw [hstart] at h
  split_ifs at h
  dsimp only at h
  split at h
  · rw [← Except.ok.inj h] at hslash
    cases hslash
  · next last hlast =>
    obtain ⟨dir, hdir, hrest⟩ := exists_of_bind_ok h
    split_ifs at hrest with hdots hlong
    · obtain ⟨place, -, hs⟩ := exists_of_bind_ok hrest
      rw [← Except.ok.inj hs] at hslash
      cases hslash
    · rw [← Except.ok.inj hrest]
      exact ⟨last, rfl, Nat.le_of_not_lt hlong⟩

/-- What is written lies under a name that fits. -/
theorem fits_of_write {bytes : List UInt8} (h : t.write path bytes = .ok t') {dir : Location} {name : Text}
    (hplace : locate t.here path = dir ++ [name]) : Text.utf8Length name ≤ longestName := by
  obtain ⟨s, hs, h⟩ := exists_of_bind_ok h
  obtain ⟨hslash, -⟩ := of_guard_ok h
  obtain ⟨last, hlast, hfits⟩ := fits_of_spot hs (Bool.eq_false_iff.2 hslash)
  rw [← location_of_spot hs, Spot.location, hlast] at hplace
  obtain rfl : last = name := by simpa using (List.append_inj' hplace rfl).2
  exact hfits

theorem of_makeDirectory (h : t.makeDirectory path = .ok t') :
    t' = t.put (locate t.here path) .directory ∧ t.node? (locate t.here path) = none := by
  obtain ⟨s, hs, h⟩ := exists_of_bind_ok h
  rw [← location_of_spot hs]
  split at h
  · cases h
  · next hnode => exact ⟨(Except.ok.inj h).symm, hnode⟩

/-- No directory has the empty path. -/
theorem ne_nil_of_makeDirectory (h : t.makeDirectory path = .ok t') : path ≠ [] := by
  rintro rfl
  cases h

theorem of_remove (h : t.remove path = .ok t') :
    t' = t.erase (locate t.here path) ∧
      ∃ bytes runnable, t.node? (locate t.here path) = some (.file bytes runnable) := by
  obtain ⟨s, hs, h⟩ := exists_of_bind_ok h
  rw [← location_of_spot hs]
  split at h
  · cases h
  · cases h
  · next bytes runnable hnode =>
    split at h
    · cases h
    · exact ⟨(Except.ok.inj h).symm, bytes, runnable, hnode⟩

/-- What can be read can be removed. -/
theorem remove_of_read {bytes : List UInt8} (h : t.read path = .ok bytes) :
    t.remove path = .ok (t.erase (locate t.here path)) := by
  obtain ⟨s, hs, hslash, runnable, hnode⟩ := read_eq_ok_iff.1 h
  rw [remove, hs, ok_bind, ← location_of_spot hs, hnode, hslash]
  rfl

/-- A file moved is read where it has been moved to. -/
theorem of_rename {source target : Text} (h : t.rename source target = .ok t') :
    ∃ bytes runnable, t.node? (locate t.here source) = some (.file bytes runnable) ∧
      t.node? (locate t.here target) ≠ some .directory ∧
      t' = (t.erase (locate t.here source)).put (locate t.here target) (.file bytes runnable) ∧
      ∃ s, t.spot target = .ok s ∧ s.slash = false := by
  obtain ⟨s, hs, h⟩ := exists_of_bind_ok h
  obtain ⟨d, hd, h⟩ := exists_of_bind_ok h
  rw [← location_of_spot hs, ← location_of_spot hd]
  obtain ⟨-, h⟩ := of_guard_ok h
  dsimp only at h
  split at h
  · cases h
  · cases h
  · next bytes runnable hnode =>
    obtain ⟨hslash, h⟩ := of_guard_ok h
    obtain ⟨hdirectory, h⟩ := of_guard_ok h
    refine ⟨bytes, runnable, hnode, hdirectory, (Except.ok.inj h).symm, d, hd, ?_⟩
    simpa using (not_or.1 (mt Bool.or_eq_true_iff.2 hslash)).2

/-! ## Nothing else changes -/

/-- **Files have been written or removed at the given places only**, directories have come up on the
given way only, and no directory is lost. -/
structure Within (way places : Location → Prop) (t t' : FileTree) : Prop where
  here : t'.here = t.here
  kept {q : Location} : t.node? q = some .directory → t'.node? q = some .directory
  came {q : Location} : t'.node? q = some .directory → t.node? q = some .directory ∨ way q
  file {q : Location} {bytes : List UInt8} {runnable : Bool} : ¬places q →
    (t'.node? q = some (.file bytes runnable) ↔ t.node? q = some (.file bytes runnable))

theorem Within.refl (way places : Location → Prop) (t : FileTree) : Within way places t t :=
  ⟨rfl, id, .inl, fun _ => .rfl⟩

theorem Within.trans (h : Within way places t t') (h' : Within way places t' t'') :
    Within way places t t'' where
  here := h'.here.trans h.here
  kept hq := h'.kept (h.kept hq)
  came hq := (h'.came hq).elim h.came .inr
  file hplace := (h'.file hplace).trans (h.file hplace)

theorem Within.mono (h : Within way places t t') (hway : ∀ q, way q → way' q)
    (hplaces : ∀ q, places q → places' q) : Within way' places' t t' where
  here := h.here
  kept := h.kept
  came hq := (h.came hq).imp_right (hway _)
  file hplace := h.file (mt (hplaces _) hplace)

/-- A change at one place, from no directory to no directory. -/
theorem Within.of_change {p : Location} (hhere : t'.here = t.here)
    (hnode : t.node? p ≠ some .directory) (hnode' : t'.node? p ≠ some .directory) (hplace : places p)
    (h : ∀ q, q ≠ p → t'.node? q = t.node? q) : Within way places t t' where
  here := hhere
  kept hq := by rwa [h _ (by rintro rfl; exact hnode hq)]
  came hq := .inl (by rwa [← h _ (by rintro rfl; exact hnode' hq)])
  file hq := by rw [h _ (by rintro rfl; exact hq hplace)]

theorem ne_nil_of_node? {p : Location} (h : t.node? p ≠ some .directory) : p ≠ [] := by
  rintro rfl
  exact h rfl

theorem within_put {p : Location} (bytes : List UInt8) (runnable : Bool)
    (hnode : t.node? p ≠ some .directory) (hplace : places p) :
    Within way places t (t.put p (.file bytes runnable)) := by
  refine .of_change rfl hnode ?_ hplace fun _ hq => node?_put_of_ne t _ hq
  rw [node?_put_self t _ (ne_nil_of_node? hnode)]
  simp

theorem within_erase {p : Location} (hnode : t.node? p ≠ some .directory) (hplace : places p) :
    Within way places t (t.erase p) := by
  refine .of_change rfl hnode ?_ hplace fun _ hq => node?_erase_of_ne t hq
  rw [node?_erase_self t (ne_nil_of_node? hnode)]
  simp

theorem makeDirectory_within (h : t.makeDirectory path = .ok t')
    (hway : way (locate t.here path)) : Within way places t t' := by
  obtain ⟨rfl, hvacant⟩ := of_makeDirectory h
  obtain ⟨p, hp⟩ : ∃ p, locate t.here path = p := ⟨_, rfl⟩
  rw [hp] at hvacant hway ⊢
  have hput : (t.put p .directory).node? p = some .directory :=
    node?_put_self t .directory (ne_nil_of_node? (by rw [hvacant]; simp))
  have hother : ∀ q, q ≠ p → (t.put p .directory).node? q = t.node? q := fun q hq =>
    node?_put_of_ne t .directory hq
  refine ⟨rfl, fun {q} hq => ?_, fun {q} hq => ?_, fun {q _ _} _ => ?_⟩
  all_goals by_cases hplace : q = p
  · rwa [hplace]
  · rwa [hother q hplace]
  · exact .inr (hplace ▸ hway)
  · exact .inl (by rwa [← hother q hplace])
  · rw [hplace, hput, hvacant]
    simp
  · rw [hother q hplace]

/-- The places of a path and of those above it. -/
def upward (here : Location) (path : Text) (q : Location) : Prop :=
  ∃ p, Path.Above path p ∧ p ≠ [] ∧ q = locate here p

theorem upward_of_parent? {here : Location} {p q : Text} (h : Path.parent? p = some q) (l : Location)
    (hl : upward here q l) : upward here p l := by
  obtain ⟨r, hr, hl⟩ := hl
  exact ⟨r, hr.of_parent? h, hl⟩

/-- **Directories come up on the way**, however far it goes. -/
theorem makeDirectories_within (places : Location → Prop) (t : FileTree) (path : Text) :
    Within (upward t.here path) places t (t.makeDirectories path).2 := by
  fun_induction makeDirectories t path with
  | case1 | case3 | case7 | case8 => exact .refl _ _ _
  | case2 path _ t' hmake =>
    exact makeDirectory_within hmake ⟨path, .self, ne_nil_of_makeDirectory hmake, rfl⟩
  | case4 path _ _ above habove _ f t' hfailed ih =>
    rw [hfailed] at ih
    exact ih.mono (upward_of_parent? habove) fun _ => id
  | case5 path _ _ above habove _ t₁ hmade t' hmake ih =>
    rw [hmade] at ih
    refine (ih.mono (upward_of_parent? habove) fun _ => id).trans ?_
    exact makeDirectory_within hmake
      ⟨path, .self, ne_nil_of_makeDirectory hmake, congrArg (locate · path) ih.here⟩
  | case6 path _ _ above habove _ t₁ hmade f _ ih =>
    rw [hmade] at ih
    exact ih.mono (upward_of_parent? habove) fun _ => id

/-! ## Requests -/

end FileTree

namespace FileCall

/-- The places where directories may come up on request. -/
def way (here : Location) : FileCall → Location → Prop
  | makeDirectories path => FileTree.upward here path
  | _ => fun _ => False

/-- The places that a request writes to. -/
def places (here : Location) : FileCall → Location → Prop
  | write path _ | remove path => (· = FileTree.locate here path)
  | rename source target => fun q => q = FileTree.locate here source ∨ q = FileTree.locate here target
  | _ => fun _ => False

end FileCall

namespace FileTree

variable {t t' : FileTree} {path : Text} {way places : Location → Prop}

theorem changed_ok (t t' : FileTree) : t.changed (.ok t') = (.ok (), t') := rfl

theorem changed_snd (t : FileTree) {r : Except FileFault FileTree} {motive : FileTree → Prop}
    (hsame : motive t) (hok : ∀ t', r = .ok t' → motive t') : motive (t.changed r).2 := by
  cases r with
  | ok t' => exact hok t' rfl
  | error f => exact hsame

/-- **A request changes nothing but what it names.** -/
theorem answer_within (c : FileCall) (t : FileTree) :
    Within (c.way t.here) (c.places t.here) t (answer c t).2 := by
  cases c with
  | makeDirectories path => exact makeDirectories_within _ t path
  | write path bytes =>
    refine t.changed_snd (.refl _ _ _) fun t' h => ?_
    obtain ⟨runnable, rfl, hnode⟩ := of_write h
    exact within_put bytes runnable hnode rfl
  | rename source target =>
    refine t.changed_snd (.refl _ _ _) fun t' h => ?_
    obtain ⟨bytes, runnable, hsource, htarget, rfl, -⟩ := of_rename h
    have hfile := ne_directory_of_file hsource
    refine (within_erase hfile (.inl rfl)).trans (within_put bytes runnable ?_ (.inr rfl))
    by_cases hplace : locate t.here target = locate t.here source
    · rw [hplace, node?_erase_self t (ne_nil_of_node? hfile)]
      simp
    · rwa [node?_erase_of_ne t hplace]
  | remove path =>
    refine t.changed_snd (.refl _ _ _) fun t' h => ?_
    obtain ⟨rfl, bytes, runnable, hnode⟩ := of_remove h
    exact within_erase (ne_directory_of_file hnode) rfl
  | present path => exact .refl _ _ _

/-- **A course of action stays within what its calls name.** -/
theorem run_within {α : Type} {p : FileErrand α} (t : FileTree)
    (h : p.Asks fun c => (∀ q, c.way t.here q → way q) ∧ ∀ q, c.places t.here q → places q) :
    Within way places t (p.run answer t).2 := by
  induction p generalizing t with
  | done a => exact .refl _ _ t
  | call c next ih =>
    obtain ⟨⟨hway, hplaces⟩, hnext⟩ := h
    have hcall : Within way places t (answer c t).2 := (answer_within c t).mono hway hplaces
    refine hcall.trans (ih _ _ ?_)
    rw [hcall.here]
    exact hnext _

/-! ## What stays readable -/

theorem Within.step (h : Within way places t t') {dir place : Location} {name : Text}
    (hstep : t.step dir name = .ok place) : t'.step dir name = .ok place := by
  unfold FileTree.step at hstep ⊢
  split_ifs at hstep ⊢ with hdot hup hlong
  · exact hstep
  · exact hstep
  · split at hstep
    · cases hstep
    · cases hstep
    · next hnode =>
      rw [h.kept hnode]
      exact hstep

theorem Within.foldlM_step (h : Within way places t t') {names : List Text} {dir place : Location}
    (hsteps : names.foldlM t.step dir = .ok place) : names.foldlM t'.step dir = .ok place := by
  induction names generalizing dir with
  | nil => exact hsteps
  | cons name names ih =>
    rw [List.foldlM_cons] at hsteps ⊢
    obtain ⟨next, hnext, hrest⟩ := exists_of_bind_ok hsteps
    rw [h.step hnext]
    exact ih hrest

/-- **A path leads where it led**, because no directory is lost. -/
theorem Within.spot (h : Within way places t t') {s : Spot} (hs : t.spot path = .ok s) :
    t'.spot path = .ok s := by
  unfold FileTree.spot at hs ⊢
  rw [h.here]
  split_ifs at hs ⊢
  all_goals
    dsimp only at hs ⊢
    split at hs
    · exact hs
    · obtain ⟨dir, hdir, hrest⟩ := exists_of_bind_ok hs
      rw [h.foldlM_step hdir, ok_bind]
      split_ifs at hrest ⊢ with hdots
      · obtain ⟨place, hplace, hs⟩ := exists_of_bind_ok hrest
        rw [h.step hplace]
        exact hs
      · exact hrest

theorem Within.read (h : Within way places t t') {bytes : List UInt8}
    (hplace : ¬places (locate t.here path)) (hread : t.read path = .ok bytes) :
    t'.read path = .ok bytes := by
  obtain ⟨s, hs, hslash, runnable, hnode⟩ := read_eq_ok_iff.1 hread
  refine read_eq_ok_iff.2 ⟨s, h.spot hs, hslash, runnable, (h.file ?_).2 hnode⟩
  rwa [location_of_spot hs]

end FileTree

end Conveyance
