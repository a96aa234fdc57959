import Conveyance.Storage.Folder
import Conveyance.Proofs.Text.Parts

/-!
# Proofs/Files/Steps — a path as the steps it takes

`Path.steps` are the names between the slashes of a path that lead anywhere: empty names and single
dots do not.  **Texts put together at a slash take the steps of both** (`steps_append`), and what
stands at the end of a path, slashes and dots apart, is its last step (`steps_eq_concat`).  So a path
with another extension takes the same steps but for the last (`steps_withExtension`), what is above
a path takes a beginning of its steps (`of_parent?`), and an `Ordinary` name below a directory adds
its steps to those of the directory (`steps_joined`): one step, if the name `IsFileName`.
-/

namespace Conveyance.Path

/-- The name leads somewhere. -/
def isStep (part : Text) : Bool := !part.isEmpty && part != ['.']

/-- **The steps of a path.** -/
def steps (p : Text) : List Text := (Text.splitOn '/' p).filter isStep

/-- The component that a step is. -/
def component (name : Text) : Component := if name = ['.', '.'] then .up else .normal name

/-! ## Steps and slashes -/

@[simp] theorem steps_nil : steps [] = [] := rfl

/-- **A slash divides the steps.** -/
theorem steps_append_slash (s t : Text) : steps (s ++ '/' :: t) = steps s ++ steps t := by
  rw [steps, Text.splitOn_append_cons, List.filter_append, ← steps, ← steps]

theorem steps_cons_slash (t : Text) : steps ('/' :: t) = steps t := steps_append_slash [] t

theorem steps_concat_slash (s : Text) : steps (s ++ ['/']) = steps s := by
  rw [steps_append_slash, steps_nil, List.append_nil]

/-- A name without slashes is one step, if it is one. -/
theorem steps_of_notMem {name : Text} (h : '/' ∉ name) (hstep : isStep name = true) :
    steps name = [name] := by
  rw [steps, Text.splitOn_of_notMem h, List.filter_cons, if_pos hstep, List.filter_nil]

/-- The second text starts where a name of the first one cannot go on. -/
def Apart (s t : Text) : Prop :=
  s = [] ∨ s.getLast? = some '/' ∨ t.head? = some '/' ∨ t = []

theorem Apart.append_slash {s t : Text} (h : Apart s t) (u : Text) : Apart s (t ++ '/' :: u) := by
  rcases h with hs | hs | ht | rfl
  · exact .inl hs
  · exact .inr (.inl hs)
  · obtain ⟨t, rfl⟩ := List.head?_eq_some_iff.1 ht
    exact .inr (.inr (.inl rfl))
  · exact .inr (.inr (.inl rfl))

/-- A text that stands apart from a name starts with a slash, if it is not empty. -/
theorem Apart.of_name {dir name rest : Text} (h : Apart (dir ++ name) rest) (hslash : '/' ∉ name)
    (hstep : isStep name = true) : rest = [] ∨ rest.head? = some '/' := by
  have hne : name ≠ [] := by
    rintro rfl
    cases hstep
  rcases h with hnil | hend | hhead | hnil
  · exact absurd (List.append_eq_nil_iff.1 hnil).2 hne
  · rw [List.getLast?_append_of_ne_nil _ hne] at hend
    exact absurd (List.mem_of_getLast? hend) hslash
  · exact .inr hhead
  · exact .inl hnil

/-- **Texts put together at a slash take the steps of both.** -/
theorem steps_append {s t : Text} (h : Apart s t) : steps (s ++ t) = steps s ++ steps t := by
  rcases h with rfl | hs | ht | rfl
  · rfl
  · obtain ⟨s, rfl⟩ := List.getLast?_eq_some_iff.1 hs
    rw [List.append_assoc, List.singleton_append, steps_append_slash, steps_concat_slash]
  · obtain ⟨t, rfl⟩ := List.head?_eq_some_iff.1 ht
    rw [steps_append_slash, steps_cons_slash]
  · rw [List.append_nil, steps_nil, List.append_nil]

/-- A step holds no slash and leads somewhere. -/
theorem of_mem_steps {p name : Text} (h : name ∈ steps p) : '/' ∉ name ∧ isStep name = true := by
  obtain ⟨hmem, hstep⟩ := List.mem_filter.1 h
  exact ⟨fun hslash => (Text.mem_of_mem_splitOn hmem '/' hslash).2 rfl, hstep⟩

/-! ## Components -/

theorem componentOf?_eq (part : Text) :
    componentOf? part = if isStep part then some (component part) else none := by
  unfold componentOf? isStep component
  by_cases hempty : part = []
  · simp [hempty]
  · by_cases hdot : part = ['.']
    · simp [hdot]
    · by_cases hup : part = ['.', '.']
      · simp [hup]
      · simp [hempty, hdot, hup]

/-- The components between slashes are the steps. -/
theorem filterMap_componentOf? (p : Text) :
    (Text.splitOn '/' p).filterMap componentOf? = (steps p).map component := by
  have hfun : componentOf? = fun part => if isStep part then some (component part) else none :=
    funext componentOf?_eq
  rw [hfun, steps, ← List.filterMap_eq_map, List.filterMap_filter]
  rfl

/-- The root, or the dot, that a path starts with. -/
def opening (p : Text) : List Component :=
  match p with
  | '/' :: _ => [.root]
  | _ => if (Text.splitOn '/' p).head? = some ['.'] then [.here] else []

/-- **A path is its opening and its steps.** -/
theorem components_eq (p : Text) : components p = opening p ++ (steps p).map component := by
  rw [← filterMap_componentOf?]
  rfl

theorem component_ne_here (name : Text) : component name ≠ .here := by
  unfold component
  split <;> nofun

theorem component_eq_up_iff (name : Text) : component name = .up ↔ name = ['.', '.'] := by
  unfold component
  split <;> simp_all

theorem up_notMem_opening (p : Text) : Component.up ∉ opening p := by
  unfold opening
  split
  · simp
  · split <;> simp

theorem up_mem_components_iff (p : Text) : Component.up ∈ components p ↔ ['.', '.'] ∈ steps p := by
  rw [components_eq, List.mem_append, or_iff_right (up_notMem_opening p)]
  simp only [List.mem_map, component_eq_up_iff, exists_eq_right]

theorem isAbsolute_cons_of_ne {c : Char} (hc : c ≠ '/') (t : Text) :
    isAbsolute (c :: t) = false := by
  unfold isAbsolute
  split
  · next heq => exact absurd (List.cons.inj heq).1 hc
  · rfl

theorem opening_cons_of_ne {c : Char} (hc : c ≠ '/') (t : Text) :
    opening (c :: t) = if (Text.splitOn '/' (c :: t)).head? = some ['.'] then [.here] else [] := by
  unfold opening
  split
  · next heq => exact absurd (List.cons.inj heq).1 hc
  · rfl

theorem opening_cons (c : Char) (t : Text) :
    isAbsolute (c :: t) = true ∧ opening (c :: t) = [.root] ∨
      isAbsolute (c :: t) = false ∧ opening (c :: t) ≠ [.root] := by
  by_cases hc : c = '/'
  · rw [hc]
    exact .inl ⟨rfl, rfl⟩
  · refine .inr ⟨isAbsolute_cons_of_ne hc t, ?_⟩
    rw [opening_cons_of_ne hc]
    split <;> simp

/-- **A path is absolute when it opens with the root.** -/
theorem isAbsolute_iff_opening (p : Text) : isAbsolute p = true ↔ opening p = [.root] := by
  cases p with
  | nil => simp [isAbsolute, opening, Text.splitOn]
  | cons c t =>
    rcases opening_cons c t with ⟨h, h'⟩ | ⟨h, h'⟩ <;> simp [h, h']

theorem isAbsolute_congr {p q : Text} (h : opening p = opening q) : isAbsolute p = isAbsolute q := by
  rw [Bool.eq_iff_iff, isAbsolute_iff_opening, isAbsolute_iff_opening, h]

theorem isAbsolute_of_opening {p : Text} (h : opening p = []) : isAbsolute p = false := by
  rw [Bool.eq_false_iff, Ne, isAbsolute_iff_opening, h]
  simp

/-- What follows a slash does not change how a path starts. -/
theorem opening_append_slash {s : Text} (hs : s ≠ []) (t : Text) :
    opening (s ++ '/' :: t) = opening s := by
  obtain ⟨c, s, rfl⟩ := List.exists_cons_of_ne_nil hs
  have hhead : (Text.splitOn '/' ((c :: s) ++ '/' :: t)).head?
      = (Text.splitOn '/' (c :: s)).head? := by
    rw [Text.splitOn_append_cons,
      List.head?_append_of_ne_nil _ (Text.splitOn_ne_nil '/' (c :: s))]
  by_cases hc : c = '/'
  · rw [hc]
    rfl
  · rw [List.cons_append] at hhead ⊢
    rw [opening_cons_of_ne hc, opening_cons_of_ne hc, hhead]

theorem isAbsolute_append {s : Text} (hs : s ≠ []) (t : Text) :
    isAbsolute (s ++ t) = isAbsolute s := by
  obtain ⟨c, s, rfl⟩ := List.exists_cons_of_ne_nil hs
  by_cases hc : c = '/'
  · rw [hc]
    rfl
  · rw [List.cons_append, isAbsolute_cons_of_ne hc, isAbsolute_cons_of_ne hc]

theorem opening_eq_nil_iff (p : Text) :
    opening p = [] ↔ isAbsolute p = false ∧ (components p).head? ≠ some .here := by
  rw [← Bool.not_eq_true, isAbsolute_iff_opening, components_eq]
  unfold opening
  split
  · simp
  · split <;> simp [component_ne_here]

/-! ## The end of a path -/

/-- Slashes and dots at the end are no steps, and a slash divides them from what they follow. -/
theorem exists_trimmed_append (p : Text) :
    ∃ rest, p = trimmed p ++ rest ∧ steps rest = [] ∧ Apart (trimmed p) rest := by
  suffices h : ∀ r : Text, ∃ rest, r = rest ++ trimmed.go r ∧ steps rest.reverse = [] ∧
      Apart (trimmed.go r).reverse rest.reverse by
    obtain ⟨rest, hrest, hsteps, hapart⟩ := h p.reverse
    refine ⟨rest.reverse, ?_, hsteps, hapart⟩
    rw [trimmed, ← List.reverse_append, ← hrest, List.reverse_reverse]
  intro r
  fun_induction trimmed.go r with
  | case1 => exact ⟨[], rfl, rfl, .inr (.inr (.inr rfl))⟩
  | case2 t _ ih =>
    obtain ⟨rest, hrest, hsteps, hapart⟩ := ih
    refine ⟨'/' :: rest, congrArg ('/' :: ·) hrest, ?_, ?_⟩
    · rw [List.reverse_cons, steps_concat_slash, hsteps]
    · rw [List.reverse_cons]
      exact hapart.append_slash []
  | case3 t hempty =>
    obtain rfl := List.isEmpty_iff.1 hempty
    exact ⟨['.'], rfl, rfl, .inr (.inl rfl)⟩
  | case4 t _ ih =>
    obtain ⟨rest, hrest, hsteps, hapart⟩ := ih
    refine ⟨'.' :: '/' :: rest, congrArg (fun t => '.' :: '/' :: t) hrest, ?_, ?_⟩
    · rw [List.reverse_cons, List.reverse_cons, List.append_assoc, List.singleton_append,
        steps_append_slash, hsteps]
      rfl
    · rw [List.reverse_cons, List.reverse_cons, List.append_assoc, List.singleton_append]
      exact hapart.append_slash ['.']
  | case5 t => exact ⟨[], rfl, rfl, .inr (.inr (.inr rfl))⟩

/-- **Nothing that leads nowhere is left at the end**: no slash, unless the path is the root, and no
dot behind a slash. -/
theorem trimmed_shape (p : Text) :
    trimmed p = ['/'] ∨ ∀ t, (trimmed p).reverse ≠ '/' :: t ∧ (trimmed p).reverse ≠ '.' :: '/' :: t := by
  suffices h : ∀ r : Text, trimmed.go r = ['/'] ∨
      ∀ t, trimmed.go r ≠ '/' :: t ∧ trimmed.go r ≠ '.' :: '/' :: t by
    rw [trimmed, List.reverse_reverse]
    exact (h p.reverse).imp_left (congrArg List.reverse)
  intro r
  fun_induction trimmed.go r with
  | case1 => exact .inl rfl
  | case2 t _ ih => exact ih
  | case3 t hempty => exact .inl rfl
  | case4 t _ ih => exact ih
  | case5 t _ hslash hdot => exact .inr fun t' => ⟨hslash t', hdot t'⟩

/-- The text above the last step of a path. -/
def above (p : Text) : Text := (trimmed p).take ((trimmed p).length - (lastPart p).length)

theorem slash_notMem_lastPart (p : Text) : '/' ∉ lastPart p := by
  intro h
  have hmem := List.mem_takeWhile_imp (List.mem_reverse.1 h)
  simp at hmem

/-- What stands above is nothing or ends with a slash. -/
theorem trimmed_eq (p : Text) :
    trimmed p = above p ++ lastPart p ∧ (above p = [] ∨ (above p).getLast? = some '/') := by
  obtain ⟨upper, hupper⟩ : ∃ upper, (trimmed p).reverse.dropWhile (· != '/') = upper := ⟨_, rfl⟩
  have hsplit : trimmed p = upper.reverse ++ lastPart p := by
    rw [lastPart, ← hupper, ← List.reverse_append, List.takeWhile_append_dropWhile,
      List.reverse_reverse]
  have habove : above p = upper.reverse := by
    have hlength := congrArg List.length hsplit
    rw [List.length_append] at hlength
    rw [above, hlength, Nat.add_sub_cancel]
    nth_rewrite 1 [hsplit]
    exact List.take_left
  refine ⟨habove ▸ hsplit, ?_⟩
  rw [habove, List.getLast?_reverse]
  rcases upper with _ | ⟨c, upper⟩
  · exact .inl rfl
  · have hhead := List.head?_dropWhile_not (· != '/') (trimmed p).reverse
    rw [hupper] at hhead
    exact .inr (by simpa using hhead)

theorem apart_above (p : Text) : Apart (above p) (lastPart p) := by
  rcases (trimmed_eq p).2 with h | h
  · exact .inl h
  · exact .inr (.inl h)

/-- What a path that takes steps ends with leads somewhere. -/
theorem isStep_lastPart {p : Text} (h : steps (trimmed p) ≠ []) : isStep (lastPart p) = true := by
  obtain ⟨hsplit, habove⟩ := trimmed_eq p
  rcases trimmed_shape p with hroot | hshape
  · rw [hroot] at h
    exact absurd rfl h
  · by_contra hstep
    have hlast : lastPart p = [] ∨ lastPart p = ['.'] := by
      simp only [isStep, Bool.and_eq_true, Bool.not_eq_true', List.isEmpty_eq_false_iff, bne_iff_ne,
        ne_eq, not_and, not_not] at hstep
      exact Classical.or_iff_not_imp_left.2 hstep
    -- an end that leads nowhere would have been cut off, or is all there is
    rcases habove with habove | habove
    · rw [hsplit, habove, List.nil_append] at h
      rcases hlast with hlast | hlast <;> rw [hlast] at h <;> exact h rfl
    · obtain ⟨upper, hupper⟩ := List.getLast?_eq_some_iff.1 habove
      rw [hsplit, hupper] at hshape
      rcases hlast with hlast | hlast <;> rw [hlast] at hshape
      · exact (hshape upper.reverse).1 (by simp)
      · exact (hshape upper.reverse).2 (by simp)

/-- **A path that takes steps ends with the last of them**, slashes and dots apart. -/
theorem steps_eq_concat {p : Text} (h : steps p ≠ []) :
    steps p = steps (above p) ++ [lastPart p] ∧ isStep (lastPart p) = true := by
  obtain ⟨rest, hp, hrest, hapart⟩ := exists_trimmed_append p
  have htrimmed : steps p = steps (trimmed p) := by
    nth_rewrite 1 [hp]
    rw [steps_append hapart, hrest, List.append_nil]
  rw [htrimmed] at h ⊢
  have hstep := isStep_lastPart h
  rw [(trimmed_eq p).1, steps_append (apart_above p),
    steps_of_notMem (slash_notMem_lastPart p) hstep]
  exact ⟨rfl, hstep⟩

/-! ## File names and extensions -/

theorem component_eq_normal {name name' : Text} (h : component name = .normal name') :
    name = name' ∧ name' ≠ ['.', '.'] := by
  unfold component at h
  split at h
  · cases h
  · next hname =>
    obtain rfl := Component.normal.inj h
    exact ⟨rfl, hname⟩

theorem getLast?_opening_ne (p name : Text) : (opening p).getLast? ≠ some (.normal name) := by
  unfold opening
  split
  · simp
  · split <;> simp

/-- **The file name of a path is its last step.** -/
theorem of_fileName? {p name : Text} (h : fileName? p = some name) :
    steps p ≠ [] ∧ lastPart p = name ∧ name ≠ ['.', '.'] := by
  have hlast : (components p).getLast? = some (.normal name) := by
    unfold fileName? at h
    split at h
    · next hlast => rw [hlast, ← Option.some.inj h]
    · cases h
  rw [components_eq] at hlast
  by_cases hsteps : steps p = []
  · rw [hsteps, List.map_nil, List.append_nil] at hlast
    exact absurd hlast (getLast?_opening_ne p name)
  · rw [(steps_eq_concat hsteps).1, List.map_append, List.map_singleton, ← List.append_assoc,
      List.getLast?_concat] at hlast
    exact ⟨hsteps, component_eq_normal (Option.some.inj hlast)⟩

theorem splitName_fst (name : Text) :
    (splitName name).1 <+: name ∧ (name ≠ [] → (splitName name).1 ≠ []) := by
  unfold splitName
  dsimp only
  split
  · next h =>
    refine ⟨List.take_prefix _ _, fun _ => ?_⟩
    simpa using (Bool.and_eq_true_iff.1 h).2
  · exact ⟨List.prefix_rfl, id⟩

/-- **Read from its end, a name has its extension before the first dot.** -/
theorem takeWhile_reverse_dotted {e : Text} (he : '.' ∉ e) (stem : Text) :
    (stem ++ '.' :: e).reverse.takeWhile (· != '.') = e.reverse := by
  have hplain : ∀ c ∈ e.reverse, (c != '.') = true := fun c hc => by
    rw [bne_iff_ne]
    rintro rfl
    exact he (List.mem_reverse.1 hc)
  rw [List.reverse_append, List.reverse_cons, List.append_assoc, List.singleton_append,
    List.takeWhile_append_of_pos hplain, List.takeWhile_cons_of_neg (by simp), List.append_nil]

/-- A file name with an extension is told apart from it at the dot. -/
theorem splitName_append {stem e : Text} (hstem : stem ≠ []) (he : '.' ∉ e) :
    splitName (stem ++ '.' :: e) = (stem, some e) := by
  have hlength : (stem ++ '.' :: e).length - e.length - 1 = stem.length := by
    rw [List.length_append, List.length_cons]
    omega
  unfold splitName
  rw [takeWhile_reverse_dotted he, List.reverse_reverse]
  dsimp only
  rw [hlength, List.take_left, if_pos (by simp [hstem])]

/-- A path with another extension differs from it behind its last slash. -/
theorem withExtension_eq {p name : Text} (h : fileName? p = some name) (e : Text) :
    withExtension p e = above p ++ ((splitName name).1 ++ '.' :: e) := by
  rw [withExtension, h, above, (of_fileName? h).2.1, ← List.append_assoc]

/-- The name that a file name becomes with another extension. -/
theorem isStep_extended {name e : Text} (hname : '/' ∉ name) (he : '/' ∉ e) (hne : e ≠ []) :
    '/' ∉ (splitName name).1 ++ '.' :: e ∧ isStep ((splitName name).1 ++ '.' :: e) = true := by
  refine ⟨fun h => ?_, ?_⟩
  · rcases List.mem_append.1 h with h | h
    · exact hname ((splitName_fst name).1.subset h)
    · rcases List.mem_cons.1 h with h | h
      · cases h
      · exact he h
  · obtain ⟨c, e, rfl⟩ := List.exists_cons_of_ne_nil hne
    rcases (splitName name).1 with _ | ⟨d, stem⟩ <;> simp [isStep]

/-- **A path with another extension takes the same steps**, but for the last. -/
theorem steps_withExtension {p name e : Text} (h : fileName? p = some name) (he : '/' ∉ e)
    (hne : e ≠ []) :
    steps (withExtension p e) = (steps p).dropLast ++ [(splitName name).1 ++ '.' :: e] := by
  obtain ⟨hsteps, rfl, -⟩ := of_fileName? h
  obtain ⟨hslash, hstep⟩ := isStep_extended (slash_notMem_lastPart p) he hne
  have hapart : Apart (above p) ((splitName (lastPart p)).1 ++ '.' :: e) :=
    (trimmed_eq p).2.imp_right .inl
  rw [withExtension_eq h, steps_append hapart, steps_of_notMem hslash hstep,
    (steps_eq_concat hsteps).1, List.dropLast_concat]

theorem opening_of_step {name : Text} (hslash : '/' ∉ name) (hstep : isStep name = true) {rest : Text}
    (hrest : rest = [] ∨ rest.head? = some '/') : opening (name ++ rest) = [] := by
  have hname : opening name = [] := by
    obtain ⟨c, t, rfl⟩ := List.exists_cons_of_ne_nil (show name ≠ [] by rintro rfl; cases hstep)
    rw [opening_cons_of_ne (List.ne_of_not_mem_cons hslash).symm, Text.splitOn_of_notMem hslash,
      List.head?_cons, if_neg]
    intro heq
    rw [Option.some.inj heq] at hstep
    cases hstep
  rcases hrest with rfl | hrest
  · rw [List.append_nil, hname]
  · obtain ⟨rest, rfl⟩ := List.head?_eq_some_iff.1 hrest
    rw [opening_append_slash (by rintro rfl; cases hstep), hname]

/-- What stands behind a slash does not change how a path starts. -/
theorem opening_append_of_getLast? {s : Text} (hs : s.getLast? = some '/') (t : Text) :
    opening (s ++ t) = opening s := by
  obtain ⟨s, rfl⟩ := List.getLast?_eq_some_iff.1 hs
  rw [List.append_assoc, List.singleton_append]
  by_cases hnil : s = []
  · rw [hnil]
    rfl
  · rw [opening_append_slash hnil, opening_append_slash hnil]

theorem opening_withExtension {p name e : Text} (h : fileName? p = some name) (he : '/' ∉ e)
    (hne : e ≠ []) : opening (withExtension p e) = opening p := by
  obtain ⟨hsteps, rfl, -⟩ := of_fileName? h
  obtain ⟨rest, hp, -, hapart⟩ := exists_trimmed_append p
  obtain ⟨htrimmed, habove⟩ := trimmed_eq p
  rw [withExtension_eq h]
  nth_rewrite 3 [hp]
  rw [htrimmed, List.append_assoc]
  rcases habove with habove | habove
  · obtain ⟨hslash, hstep⟩ := isStep_extended (slash_notMem_lastPart p) he hne
    have hlast := (steps_eq_concat hsteps).2
    rw [htrimmed] at hapart
    have hrest := hapart.of_name (slash_notMem_lastPart p) hlast
    rw [habove, List.nil_append, List.nil_append,
      opening_of_step (slash_notMem_lastPart p) hlast hrest]
    simpa using opening_of_step hslash hstep (.inl rfl)
  · rw [opening_append_of_getLast? habove, opening_append_of_getLast? habove]

/-! ## The path above -/

theorem eq_trimmed_above {p q : Text} (h : parent? p = some q) : q = trimmed (above p) := by
  unfold parent? at h
  split at h
  · cases h
  · cases h
  · exact (Option.some.inj h).symm

/-- **What is above a path is a beginning of it**, and takes all its steps but the last. -/
theorem of_parent? {p q : Text} (h : parent? p = some q) :
    q <+: p ∧ steps q <+: steps p ∧ (steps p ≠ [] → steps q = (steps p).dropLast) := by
  have hq := eq_trimmed_above h
  obtain ⟨rest, hp, hrest, hapart⟩ := exists_trimmed_append p
  obtain ⟨rest', hp', hrest', hapart'⟩ := exists_trimmed_append (above p)
  have hsteps : steps q = steps (above p) := by
    rw [hq]
    nth_rewrite 2 [hp']
    rw [steps_append hapart', hrest', List.append_nil]
  refine ⟨⟨rest' ++ lastPart p ++ rest, ?_⟩, ⟨steps (lastPart p), ?_⟩, fun hne => ?_⟩
  · rw [hq, ← List.append_assoc, ← List.append_assoc, ← hp', ← (trimmed_eq p).1, ← hp]
  · nth_rewrite 2 [hp]
    rw [hsteps, steps_append hapart, hrest, List.append_nil, (trimmed_eq p).1,
      steps_append (apart_above p)]
  · rw [hsteps, (steps_eq_concat hne).1, List.dropLast_concat]

theorem trimmed_ne_nil {p : Text} (h : p ≠ []) : trimmed p ≠ [] := by
  suffices hgo : ∀ r : Text, r ≠ [] → trimmed.go r ≠ [] by
    rw [trimmed, Ne, List.reverse_eq_nil_iff]
    exact hgo p.reverse (mt List.reverse_eq_nil_iff.1 h)
  intro r
  fun_induction trimmed.go r with
  | case1 => exact id
  | case2 t hroot ih => exact fun _ => ih fun hnil => hroot (hnil ▸ rfl)
  | case3 => exact fun _ => List.cons_ne_nil _ _
  | case4 t hempty ih => exact fun _ => ih (mt List.isEmpty_iff.2 hempty)
  | case5 => exact id

theorem isAbsolute_trimmed (p : Text) : isAbsolute (trimmed p) = isAbsolute p := by
  by_cases hp : p = []
  · rw [hp]
    rfl
  · obtain ⟨rest, hrest, -⟩ := exists_trimmed_append p
    nth_rewrite 2 [hrest]
    rw [isAbsolute_append (trimmed_ne_nil hp)]

/-- **What is above a path starts where the path starts.** -/
theorem isAbsolute_of_parent? {p q : Text} (h : parent? p = some q) :
    isAbsolute q = isAbsolute p := by
  obtain ⟨htrimmed, -⟩ := trimmed_eq p
  rw [eq_trimmed_above h, isAbsolute_trimmed, ← isAbsolute_trimmed p, htrimmed]
  by_cases habove : above p = []
  · rw [habove, List.nil_append]
    cases hlast : lastPart p with
    | nil => rfl
    | cons c t =>
      have hslash := slash_notMem_lastPart p
      rw [hlast] at hslash
      exact (isAbsolute_cons_of_ne (List.ne_of_not_mem_cons hslash).symm t).symm
  · exact (isAbsolute_append habove _).symm

/-! ## Ordinary names -/

/-- The path neither starts at the root or with a dot nor goes up, and it leads somewhere. -/
structure Ordinary (p : Text) : Prop where
  opening : opening p = []
  steps_ne_nil : steps p ≠ []
  up_notMem : ['.', '.'] ∉ steps p

theorem component_isOrdinary (name : Text) :
    FolderPlace.isOrdinary (component name) = true ↔ name ≠ ['.', '.'] := by
  unfold component
  split <;> simp_all [FolderPlace.isOrdinary]

theorem opening_isOrdinary (p : Text) :
    (opening p).all FolderPlace.isOrdinary = true ↔ opening p = [] := by
  unfold opening
  split
  · simp [FolderPlace.isOrdinary]
  · split <;> simp [FolderPlace.isOrdinary]

/-- **All components are ordinary names** when the path neither starts elsewhere nor goes up. -/
theorem all_isOrdinary_iff (p : Text) :
    (components p).all FolderPlace.isOrdinary = true ↔ opening p = [] ∧ ['.', '.'] ∉ steps p := by
  rw [components_eq, List.all_append, Bool.and_eq_true, opening_isOrdinary, List.all_map,
    List.all_eq_true]
  refine and_congr_right fun _ => ⟨fun h hmem => ?_, fun h name hname => ?_⟩
  · exact (component_isOrdinary _).1 (h _ hmem) rfl
  · exact (component_isOrdinary name).2 fun heq => h (heq ▸ hname)

theorem steps_ne_nil_of_opening {p : Text} (hp : p ≠ []) (h : opening p = []) : steps p ≠ [] := by
  obtain ⟨c, t, rfl⟩ := List.exists_cons_of_ne_nil hp
  have hc : c ≠ '/' := by
    rintro rfl
    cases h
  obtain ⟨part, parts, hparts⟩ := List.exists_cons_of_ne_nil (Text.splitOn_ne_nil '/' t)
  have hsplit := Text.splitOn_cons_of_ne hc hparts
  rw [opening_cons_of_ne hc, hsplit, List.head?_cons] at h
  have hdot : c :: part ≠ ['.'] := by
    intro heq
    rw [heq, if_pos rfl] at h
    cases h
  rw [steps, hsplit, List.filter_cons, if_pos (by simp [isStep, hdot])]
  exact List.cons_ne_nil _ _

theorem ordinary_iff (p : Text) :
    Ordinary p ↔ p ≠ [] ∧ (components p).all FolderPlace.isOrdinary = true := by
  rw [all_isOrdinary_iff]
  constructor
  · rintro ⟨hopening, hsteps, hup⟩
    refine ⟨?_, hopening, hup⟩
    rintro rfl
    exact hsteps rfl
  · rintro ⟨hp, hopening, hup⟩
    exact ⟨hopening, steps_ne_nil_of_opening hp hopening, hup⟩

/-- The components of a name that takes no step up. -/
theorem map_component_of_notMem {names : List Text} (h : ['.', '.'] ∉ names) :
    names.map component = names.map .normal :=
  List.map_congr_left fun name hname => if_neg fun heq : name = ['.', '.'] => h (heq ▸ hname)

theorem Ordinary.components_eq {p : Text} (h : Ordinary p) :
    components p = (steps p).map .normal := by
  rw [Path.components_eq, h.opening, List.nil_append, map_component_of_notMem h.up_notMem]

/-- **An ordinary name has a file name**: its last step. -/
theorem Ordinary.fileName? {p : Text} (h : Ordinary p) :
    fileName? p = some ((steps p).getLast h.steps_ne_nil) := by
  rw [Path.fileName?, h.components_eq, List.getLast?_map, List.getLast?_eq_some_getLast h.steps_ne_nil]
  rfl

/-! ## File names in a directory -/

/-- The text is the name of a file in a directory: **one component, as it stands**. -/
def IsFileName (name : Text) : Prop := components name = [.normal name]

theorem IsFileName.fileName? {name : Text} (h : IsFileName name) : fileName? name = some name := by
  rw [Path.fileName?, h]
  rfl

theorem isFileName_iff {name : Text} :
    IsFileName name ↔ '/' ∉ name ∧ isStep name = true ∧ name ≠ ['.', '.'] := by
  constructor
  · intro h
    obtain ⟨hsteps, hlast, hup⟩ := of_fileName? h.fileName?
    have hslash := slash_notMem_lastPart name
    have hstep := (steps_eq_concat hsteps).2
    rw [hlast] at hslash hstep
    exact ⟨hslash, hstep, hup⟩
  · rintro ⟨hslash, hstep, hup⟩
    have hopening : opening name = [] := by
      simpa using opening_of_step hslash hstep (.inl rfl)
    rw [IsFileName, components_eq, hopening, steps_of_notMem hslash hstep, List.nil_append,
      List.map_singleton, component, if_neg hup]

theorem IsFileName.steps {name : Text} (h : IsFileName name) : steps name = [name] := by
  obtain ⟨hslash, hstep, -⟩ := isFileName_iff.1 h
  exact steps_of_notMem hslash hstep

/-- A file name is an ordinary name. -/
theorem IsFileName.ordinary {name : Text} (h : IsFileName name) : Ordinary name := by
  obtain ⟨hslash, hstep, hup⟩ := isFileName_iff.1 h
  refine ⟨by simpa using opening_of_step hslash hstep (.inl rfl), ?_, ?_⟩
  · rw [h.steps]
    exact List.cons_ne_nil _ _
  · rw [h.steps, List.mem_singleton]
    exact hup.symm

/-- **The file name of any path is one.** -/
theorem isFileName_of_fileName? {p name : Text} (h : fileName? p = some name) : IsFileName name := by
  obtain ⟨hsteps, rfl, hup⟩ := of_fileName? h
  exact isFileName_iff.2 ⟨slash_notMem_lastPart p, (steps_eq_concat hsteps).2, hup⟩

/-! ## Ordinary names below a directory -/

/-- **A name below a directory adds its steps.** -/
theorem steps_joined {p : Text} (h : Path.opening p = []) (dir : Text) :
    steps (joined dir p) = steps dir ++ steps p := by
  rw [joined, isAbsolute_of_opening h, if_neg Bool.false_ne_true]
  split
  · next hdir =>
    rcases Bool.or_eq_true_iff.1 hdir with hdir | hdir
    · exact steps_append (.inl (List.isEmpty_iff.1 hdir))
    · exact steps_append (.inr (.inl (of_decide_eq_true hdir)))
  · exact steps_append_slash dir p

theorem opening_joined {p : Text} (h : Path.opening p = []) (dir : Text) :
    Path.opening (joined dir p) = Path.opening dir := by
  rw [joined, isAbsolute_of_opening h, if_neg Bool.false_ne_true]
  split
  · next hdir =>
    rcases Bool.or_eq_true_iff.1 hdir with hdir | hdir
    · rw [List.isEmpty_iff.1 hdir, List.nil_append, h]
      rfl
    · exact opening_append_of_getLast? (of_decide_eq_true hdir) p
  · next hdir =>
    refine opening_append_slash ?_ p
    rintro rfl
    exact hdir rfl

theorem components_joined {p : Text} (h : Path.opening p = []) (dir : Text) :
    components (joined dir p) = components dir ++ components p := by
  rw [components_eq, opening_joined h, steps_joined h, List.map_append, ← List.append_assoc,
    ← components_eq, components_eq p, h, List.nil_append]

theorem Ordinary.fileName?_joined {p : Text} (h : Ordinary p) (dir : Text) :
    Path.fileName? (joined dir p) = Path.fileName? p := by
  have hne : components p ≠ [] := by
    rw [h.components_eq]
    simpa using h.steps_ne_nil
  rw [Path.fileName?, components_joined h.opening, List.getLast?_append_of_ne_nil _ hne,
    Path.fileName?]

end Conveyance.Path
