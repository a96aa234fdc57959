import Conveyance.Proofs.Files.Effect
import Conveyance.Startup.Settings

/-!
# Proofs/Startup/DatePattern — the date patterns that settings accept

Settings refuse a pattern in which some specifier does not exist.  A pattern may also ask for a time
of day or for a zone, which no date has.  **Such a pattern is accepted, and every date is written in
ISO 8601 instead of it**; every other pattern that is accepted is written for every date
(`date_of_read`).
-/

namespace Conveyance

/-- One element for which there is no result leaves the whole list without one. -/
theorem mapM_eq_none_iff {α β : Type} {f : α → Option β} {l : List α} :
    l.mapM f = none ↔ ∃ a ∈ l, f a = none := by
  induction l with
  | nil => simp
  | cons a l ih =>
    rw [List.mapM_cons, List.exists_mem_cons_iff, ← ih]
    rcases f a with _ | b
    · simp
    · rcases l.mapM f with _ | bs <;> simp

namespace PatternItem

/-- The part asks for a time of day or for a zone. -/
def asksClock : PatternItem → Bool
  | number .ofClock _ | ofClock => true
  | _ => false

/-- **What cannot be written for a date**, whichever it is: a specifier that does not exist, and one
that asks for the clock. -/
theorem text?_eq_none_iff (d : Date) (item : PatternItem) :
    item.text? d = none ↔ item = malformed ∨ item.asksClock = true := by
  cases item with
  | number n padding => cases n <;> simp [text?, numberText?, asksClock]
  | _ => simp [text?, asksClock]

end PatternItem

namespace Pattern

/-- Some specifier of the pattern asks for a time of day or for a zone. -/
def asksClock (pattern : Text) : Bool := (PatternItem.items pattern).any PatternItem.asksClock

/-- **Whether a pattern can be written does not depend on the date.** -/
theorem format?_eq_none_iff (pattern : Text) (d : Date) :
    format? pattern d = none ↔ isWellFormed pattern = false ∨ asksClock pattern = true := by
  simp only [format?, Option.map_eq_none_iff, mapM_eq_none_iff, PatternItem.text?_eq_none_iff,
    isWellFormed, asksClock, List.all_eq_false, List.any_eq_true, bne_iff_ne, not_not, ← exists_or,
    ← and_or_left, ne_eq]

end Pattern

namespace Settings

variable {env : Environment} {s : Settings}

/-- A variable that was read holds a text that can be read, or it is not set. -/
theorem of_readD {α : Type} {v : Variable} {default a : α} {f : Text → Option α}
    (h : readD env v default f = .ok a) :
    env.get? v = none ∧ a = default ∨ ∃ t, env.get? v = some t ∧ f t = some a := by
  unfold readD at h
  split at h
  · next hunset => exact .inl ⟨hunset, (Except.ok.inj h).symm⟩
  · next t hset =>
    split at h
    · next b hread => exact .inr ⟨t, hset, hread.trans (congrArg some (Except.ok.inj h))⟩
    · cases h

/-- **The pattern of settings** is the one in the environment, or the usual one, and all its
specifiers exist. -/
theorem datePattern_of_read (h : read env = .ok s) :
    s.format.datePattern = env.getD .dateFormat "%d/%m/%Y" ∧
      Pattern.isWellFormed s.format.datePattern = true := by
  obtain ⟨_, -, h⟩ := exists_of_bind_ok h
  obtain ⟨_, -, h⟩ := exists_of_bind_ok h
  obtain ⟨_, -, h⟩ := exists_of_bind_ok h
  obtain ⟨pattern, hpattern, h⟩ := exists_of_bind_ok h
  obtain ⟨_, -, h⟩ := exists_of_bind_ok h
  obtain rfl : s.format.datePattern = pattern := by rw [← Except.ok.inj h]
  rw [Environment.getD]
  rcases of_readD hpattern with ⟨hunset, husual⟩ | ⟨t, hset, hread⟩
  · rw [hunset, husual]
    exact ⟨rfl, by decide +kernel⟩
  · obtain ⟨hwellFormed, ht⟩ := Option.ite_none_right_eq_some.1 hread
    rw [hset, ← Option.some.inj ht]
    exact ⟨rfl, hwellFormed⟩

/-- **Dates are written by the pattern that was set unless it asks for the clock**; by a pattern that
does, none is, and all dates are written in ISO 8601. -/
theorem date_of_read (h : read env = .ok s) (d : Date) :
    (Pattern.format? (env.getD .dateFormat "%d/%m/%Y") d = some (s.format.date d) ↔
        Pattern.asksClock (env.getD .dateFormat "%d/%m/%Y") = false) ∧
      (Pattern.asksClock (env.getD .dateFormat "%d/%m/%Y") = true → s.format.date d = d.text) := by
  obtain ⟨hpattern, hwellFormed⟩ := datePattern_of_read h
  rw [← hpattern]
  have hnone := Pattern.format?_eq_none_iff s.format.datePattern d
  rw [hwellFormed, or_iff_right (by decide)] at hnone
  rw [← Bool.not_eq_true, ← hnone, Format.date]
  rcases Pattern.format? s.format.datePattern d with _ | t
  · exact ⟨iff_of_false nofun (not_not_intro rfl), fun _ => rfl⟩
  · exact ⟨iff_of_true rfl nofun, nofun⟩

/-- A date by a pattern of words and numbers. -/
theorem date_of_read_words :
    let pattern : Text := "%-d %B %Y".toList
    let env : Environment := fun v =>
      if v = .databaseUrl then some "db".toList
      else if v = .dateFormat then some pattern else none
    let s : Settings :=
      { databaseUrl := "db".toList, bindAddress := "0.0.0.0:8080".toList
        storage := .folder
          { directory := "./generated".toList, publicUrl := "http://0.0.0.0:8080/files".toList }
        documentsFolder := "documents".toList, typstProgram := "typst".toList
        format := { datePattern := pattern }, layout := {} }
    let d : Date := ⟨2025, 3, 1, by decide, by decide⟩
    read env = .ok s ∧ Pattern.format? pattern d = some (s.format.date d) ∧
      s.format.date d = "1 March 2025".toList := by
  intro pattern env s d
  have hread : read env = .ok s := by decide +kernel
  have hdate : Pattern.format? pattern d = some (s.format.date d) :=
    (date_of_read hread d).1.2 (by decide +kernel)
  exact ⟨hread, hdate, by decide +kernel⟩

/-- **A pattern with a time of day is accepted**, and dates are written without regard to it. -/
theorem date_of_read_clock :
    let pattern : Text := "%d/%m/%Y %H:%M".toList
    let env : Environment := fun v =>
      if v = .databaseUrl then some "db".toList
      else if v = .dateFormat then some pattern else none
    let d : Date := ⟨2025, 3, 7, by decide, by decide⟩
    ∃ s, read env = .ok s ∧ s.format.datePattern = pattern ∧ Pattern.format? pattern d = none ∧
      s.format.date d = "2025-03-07".toList := by
  intro pattern env d
  exact ⟨
    { databaseUrl := "db".toList, bindAddress := "0.0.0.0:8080".toList
      storage := .folder
        { directory := "./generated".toList, publicUrl := "http://0.0.0.0:8080/files".toList }
      documentsFolder := "documents".toList, typstProgram := "typst".toList
      format := { datePattern := pattern }, layout := {} },
    by decide +kernel⟩

end Settings

end Conveyance
