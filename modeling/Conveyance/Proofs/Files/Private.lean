import Conveyance.Proofs.Files.Effect

/-!
# Proofs/Files/Private — a directory that nobody else uses

`FileTree.NewDirectory` says what comes of handing out a private directory, and `FileTree.Discards`
what comes of taking it away again.  **A path that avoids the directory leads where it led**
(`SameBut.find`), and a path into a directory that was there before avoids the new one
(`NewDirectory.avoids`).  `FileTree.Holding` says **exactly which files a directory holds**: a new
directory holds none, and a file that is written into it under a new file name is one file more
(`Holding.write`).
-/

namespace Conveyance

namespace FileTree

variable {t t' t'' : FileTree} {place : Location} {directory name path : Text} {bytes : List UInt8}

/-! ## Paths that avoid a place -/

/-- **A path avoids a place**: no step of it leads there or below. -/
def Avoids (here : Location) (path : Text) (place : Location) : Prop :=
  ∀ names, names <+: Path.steps path → ¬place <+: names.foldl turn (start here path)

/-- **Two trees that are the same** but for what lies at a place or below it. -/
structure SameBut (place : Location) (t t' : FileTree) : Prop where
  here : t'.here = t.here
  node {q : Location} : ¬place <+: q → t'.node? q = t.node? q

/-- Steps that avoid the place lead where they led. -/
theorem SameBut.foldlM_step (h : SameBut place t t') {names : List Text} {dir : Location}
    (havoid : ∀ first, first <+: names.filter (· != ['.']) → ¬place <+: first.foldl turn dir) :
    names.foldlM t'.step dir = names.foldlM t.step dir := by
  induction names generalizing dir with
  | nil => rfl
  | cons name names ih =>
    rw [List.foldlM_cons, List.foldlM_cons]
    by_cases hdot : name = ['.']
    · subst hdot
      exact ih havoid
    · rw [List.filter_cons_of_pos (by simpa using hdot)] at havoid
      have hnext : ¬place <+: turn dir name := havoid [name] (List.prefix_append _ _)
      have hstep : t'.step dir name = t.step dir name := by
        rw [FileTree.step, FileTree.step]
        split_ifs with hup
        · rfl
        · rfl
        · rw [turn, if_neg hup] at hnext
          rw [h.node hnext]
      rw [hstep]
      cases hled : t.step dir name with
      | error f => rfl
      | ok next =>
        have hsingle : [name].foldlM t.step dir = .ok next := by rw [List.foldlM_cons, hled]; rfl
        obtain rfl : next = turn dir name := by
          rw [FileTree.foldlM_step hsingle, List.filter_cons_of_pos (by simpa using hdot)]
          rfl
        exact ih fun first hfirst => havoid (name :: first) ((List.prefix_cons_inj name).2 hfirst)

/-- **A path that avoids the place leads where it led.** -/
theorem SameBut.spot (h : SameBut place t t') (havoid : Avoids t.here path place) :
    t'.spot path = t.spot path := by
  have hstart : (if Path.isAbsolute path then [] else t.here) = start t.here path := rfl
  unfold FileTree.spot
  rw [h.here, hstart]
  split_ifs
  · rfl
  · rfl
  · rfl
  · dsimp only
    cases hlast : (names path).getLast? with
    | none => rfl
    | some last =>
      obtain ⟨upper, hnames⟩ := List.getLast?_eq_some_iff.1 hlast
      have hupper : (names path).dropLast.foldlM t'.step (start t.here path) =
          (names path).dropLast.foldlM t.step (start t.here path) := by
        refine h.foldlM_step fun first hfirst => havoid first (hfirst.trans ?_)
        rw [← filter_names, hnames, List.dropLast_concat, List.filter_append]
        exact List.prefix_append _ _
      dsimp only
      rw [hupper]
      congr 1
      funext dir
      -- a last step of dots does not look at the tree
      by_cases hdots : (decide (last = ['.']) || decide (last = ['.', '.'])) = true
      · have hstep : t'.step dir last = t.step dir last := by
          obtain rfl | rfl : last = ['.'] ∨ last = ['.', '.'] := by simpa using hdots
          all_goals rfl
        rw [if_pos hdots, if_pos hdots, hstep]
      · rw [if_neg hdots, if_neg hdots]

theorem SameBut.find (h : SameBut place t t') (havoid : Avoids t.here path place) :
    t'.find path = t.find path := by
  rw [FileTree.find, FileTree.find, h.spot havoid]
  cases hs : t.spot path with
  | error f => rfl
  | ok s =>
    rw [ok_bind, ok_bind, h.node]
    rw [location_of_spot hs]
    exact havoid _ List.prefix_rfl

/-! ## Directories -/

/-- **A new directory is handed out**: nothing lay there or below it, and nothing else changes. -/
structure NewDirectory (t : FileTree) (directory : Text) (t' : FileTree) : Prop where
  here : t'.here = t.here
  vacant {q : Location} : locate t.here directory <+: q → t.node? q = none
  made : t'.node? (locate t.here directory) = some .directory
  others {q : Location} : q ≠ locate t.here directory → t'.node? q = t.node? q

/-- A directory may be made where nothing lies. -/
theorem newDirectory_put (h : ∀ q, locate t.here directory <+: q → t.node? q = none) :
    t.NewDirectory directory (t.put (locate t.here directory) .directory) where
  here := rfl
  vacant hq := h _ hq
  made := node?_put_self t _ (ne_nil_of_node? (by rw [h _ List.prefix_rfl]; nofun))
  others hq := node?_put_of_ne t _ hq

theorem NewDirectory.sameBut (h : t.NewDirectory directory t') :
    SameBut (locate t.here directory) t t' where
  here := h.here
  node hq := h.others fun heq => hq (heq ▸ List.prefix_rfl)

/-- **A directory is taken away**, or some of what it holds stays: nothing else changes. -/
structure Discards (place : Location) (t t' : FileTree) : Prop extends SameBut place t t' where
  gone {q : Location} : place <+: q → t'.node? q = t.node? q ∨ t'.node? q = none

theorem Discards.refl (place : Location) (t : FileTree) : Discards place t t :=
  ⟨⟨rfl, fun _ => rfl⟩, fun _ => .inl rfl⟩

theorem Discards.trans (h : Discards place t t') (h' : Discards place t' t'') :
    Discards place t t'' where
  here := h'.here.trans h.here
  node hq := (h'.node hq).trans (h.node hq)
  gone hq := by
    rcases h'.gone hq with heq | hnone
    · rw [heq]
      exact h.gone hq
    · exact .inr hnone

/-- **A directory that is removed with all that it holds**: nothing lies there or below it. -/
theorem of_removeAll (h : t.removeAll path = .ok t') :
    Discards (locate t.here path) t t' ∧ ∀ q, locate t.here path <+: q → t'.node? q = none := by
  obtain ⟨s, hs, h⟩ := exists_of_bind_ok h
  obtain ⟨hname, h⟩ := of_guard_ok h
  dsimp only at h
  split at h
  · cases h
  · cases h
  · have hplace : s.location ≠ [] := by
      rw [Spot.location]
      cases hs : s.name? with
      | none => simp [hs] at hname
      | some name => simp
    rw [← Except.ok.inj h, ← location_of_spot hs]
    have hgone : ∀ q, s.location <+: q → (t.prune s.location).node? q = none :=
      fun q => node?_prune_of_below t hplace
    exact ⟨⟨⟨rfl, node?_prune_of_not_below t⟩, fun hq => .inr (hgone _ hq)⟩, hgone⟩

/-- Where nothing lies, no step leads. -/
theorem not_below_of_foldlM (hvacant : ∀ q, place <+: q → t.node? q = none) {names : List Text}
    {dir last : Location} (hdir : ¬place <+: dir) (h : names.foldlM t.step dir = .ok last) :
    ∀ first, first <+: names.filter (· != ['.']) → ¬place <+: first.foldl turn dir := by
  induction names generalizing dir with
  | nil =>
    intro first hfirst
    rwa [List.prefix_nil.1 hfirst]
  | cons name names ih =>
    rw [List.foldlM_cons] at h
    obtain ⟨next, hnext, hrest⟩ := exists_of_bind_ok h
    by_cases hdot : name = ['.']
    · subst hdot
      exact ih hdir (Except.ok.inj hnext ▸ hrest)
    · have hturn : next = turn dir name := by
        have hsingle : [name].foldlM t.step dir = .ok next := by
          rw [List.foldlM_cons, hnext]
          rfl
        rw [foldlM_step hsingle, List.filter_cons_of_pos (by simpa using hdot)]
        rfl
      have hbeyond : ¬place <+: next := by
        rw [FileTree.step, if_neg hdot] at hnext
        split_ifs at hnext with hup hlong
        · rw [← Except.ok.inj hnext]
          exact fun hbelow => hdir (hbelow.trans (List.dropLast_prefix dir))
        · split at hnext
          · cases hnext
          · cases hnext
          · next hnode =>
            rw [← Except.ok.inj hnext]
            exact fun hbelow => nomatch hnode.symm.trans (hvacant _ hbelow)
      intro first hfirst
      rw [List.filter_cons_of_pos (by simpa using hdot)] at hfirst
      cases first with
      | nil => exact hdir
      | cons name' first =>
        obtain ⟨rfl, hlater⟩ := List.cons_prefix_cons.1 hfirst
        rw [List.foldl_cons, ← hturn]
        exact ih hbeyond hrest first hlater

/-- All steps of a path but the last lead somewhere. -/
theorem upper_of_spot {s : Spot} (h : t.spot path = .ok s) : names path = [] ∨
    ∃ upper last dir, names path = upper ++ [last] ∧
      upper.foldlM t.step (start t.here path) = .ok dir := by
  have hstart : (if Path.isAbsolute path then [] else t.here) = start t.here path := rfl
  unfold FileTree.spot at h
  rw [hstart] at h
  split_ifs at h
  dsimp only at h
  split at h
  · next hnone => exact .inl (List.getLast?_eq_none_iff.1 hnone)
  · next last hlast =>
    obtain ⟨upper, hnames⟩ := List.getLast?_eq_some_iff.1 hlast
    obtain ⟨dir, hdir, -⟩ := exists_of_bind_ok h
    rw [hnames, List.dropLast_concat] at hdir
    exact .inr ⟨upper, last, dir, hnames, hdir⟩

/-- **A path into a directory that was there before avoids a new one**, unless it names that one. -/
theorem NewDirectory.avoids (h : t.NewDirectory directory t')
    (hhere : t.node? t.here = some .directory) {s : Spot} (hs : t.spot path = .ok s)
    (hne : locate t.here path ≠ locate t.here directory) :
    Avoids t.here path (locate t.here directory) := by
  have hvacant : ∀ q, locate t.here directory <+: q → t.node? q = none := fun _ => h.vacant
  have hbegin : ¬locate t.here directory <+: start t.here path := by
    intro hbelow
    have hdirectory : t.node? (start t.here path) = some .directory := by
      unfold start
      split
      · rfl
      · exact hhere
    cases hdirectory.symm.trans (hvacant _ hbelow)
  rcases upper_of_spot hs with hnames | ⟨upper, last, dir, hnames, hdir⟩
  · intro first hfirst
    rw [← filter_names, hnames, List.filter_nil] at hfirst
    rwa [List.prefix_nil.1 hfirst]
  · have hupper := not_below_of_foldlM hvacant hbegin hdir
    intro first hfirst
    rw [← filter_names, hnames, List.filter_append] at hfirst
    by_cases hdot : last = ['.']
    · rw [hdot] at hfirst
      exact hupper first (by simpa using hfirst)
    · have hsteps : Path.steps path = upper.filter (· != ['.']) ++ [last] := by
        rw [← filter_names, hnames, List.filter_append, List.filter_cons_of_pos (by simpa using hdot),
          List.filter_nil]
      rw [List.filter_cons_of_pos (by simpa using hdot), List.filter_nil,
        List.prefix_concat_iff] at hfirst
      rcases hfirst with rfl | hfirst
      · have hdir := hupper _ List.prefix_rfl
        rw [locate, hsteps] at hne
        rw [List.foldl_append, List.foldl_cons, List.foldl_nil, turn] at hne ⊢
        by_cases hup : last = ['.', '.']
        · rw [if_pos hup]
          exact fun hbelow => hdir (hbelow.trans (List.dropLast_prefix _))
        · rw [if_neg hup] at hne ⊢
          rw [List.prefix_concat_iff]
          rintro (heq | hbelow)
          · exact hne heq.symm
          · exact hdir hbelow
      · exact hupper first hfirst

/-- A file in a directory is the name of the directory and its own. -/
theorem locate_fileName (hname : Path.IsFileName name) (here : Location) (directory : Text) :
    locate here (Path.joined directory name) = locate here directory ++ [name] := by
  rw [locate_joined hname.ordinary, hname.steps]

/-- **The files that a directory holds**: these, and nothing else at any depth. -/
structure Holding (place : Location) (files : List (Text × List UInt8)) (t : FileTree) : Prop where
  file {file : Text × List UInt8} : file ∈ files →
    ∃ runnable, t.node? (place ++ [file.1]) = some (.file file.2 runnable)
  only {rest : Location} {node : Node} : rest ≠ [] → t.node? (place ++ rest) = some node →
    ∃ file ∈ files, rest = [file.1]

theorem NewDirectory.holding (h : t.NewDirectory directory t') :
    Holding (locate t.here directory) [] t' where
  file h := nomatch h
  only hrest hnode := by
    rw [h.others (by simpa using hrest), h.vacant (List.prefix_append _ _)] at hnode
    cases hnode

/-- **A file of a new name is one file more.** -/
theorem Holding.write {files : List (Text × List UInt8)}
    (h : Holding (locate t.here directory) files t) (hname : Path.IsFileName name)
    (hnew : name ∉ files.map Prod.fst)
    (hwrite : t.write (Path.joined directory name) bytes = .ok t') :
    Holding (locate t.here directory) (files ++ [(name, bytes)]) t' := by
  obtain ⟨runnable, rfl, hnode⟩ := of_write hwrite
  rw [locate_fileName hname] at hnode ⊢
  refine ⟨fun {file} hfile => ?_, fun {rest node} hrest hfound => ?_⟩
  · rcases List.mem_append.1 hfile with hfile | hfile
    · have hne : file.1 ≠ name := fun heq => hnew (heq ▸ List.mem_map_of_mem hfile)
      obtain ⟨runnable', hfound⟩ := h.file hfile
      exact ⟨runnable', by rwa [node?_put_of_ne t _ (by simpa using hne)]⟩
    · obtain rfl := List.mem_singleton.1 hfile
      exact ⟨runnable, node?_put_self t _ (ne_nil_of_node? hnode)⟩
  · by_cases hplace : rest = [name]
    · exact ⟨(name, bytes), List.mem_append_right _ (List.mem_singleton_self _), hplace⟩
    · rw [node?_put_of_ne t _ (by simpa using hplace)] at hfound
      obtain ⟨file, hfile, heq⟩ := h.only hrest hfound
      exact ⟨file, List.mem_append_left _ hfile, heq⟩

end FileTree

end Conveyance
