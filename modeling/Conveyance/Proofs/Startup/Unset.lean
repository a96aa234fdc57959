import Conveyance.Startup.Settings

/-!
# Proofs/Startup/Unset — variables that are set to blanks

A variable that is set to nothing but blanks is read like one that is not set.  So two environments
that agree but for such variables have **the same error or the same settings, the currency symbol
apart**: that variable alone is read as it stands, and a blank in it takes the place of the usual
symbol (`read_agreeButBlank`).
-/

namespace Conveyance

namespace Environment

variable {env env' : Environment}

/-- **Two environments agree but for blanks**: a variable in which they differ is blank in one of
them and not set in the other. -/
def AgreeButBlank (env env' : Environment) : Prop :=
  ∀ v, env v = env' v ∨ ∃ t, Text.allBlank t = true ∧
    (env v = some t ∧ env' v = none ∨ env v = none ∧ env' v = some t)

theorem get?_eq_none {v : Variable} (h : ∀ t, env v = some t → Text.allBlank t = true) :
    env.get? v = none := by
  rw [get?, Option.filter_eq_none_iff]
  intro t ht
  rw [h t ht]
  decide

/-- **A variable that is blank is read like one that is not set.** -/
theorem AgreeButBlank.get?_eq (h : env.AgreeButBlank env') : env.get? = env'.get? := by
  funext v
  rcases h v with h | ⟨t, ht, ⟨hset, hunset⟩ | ⟨hunset, hset⟩⟩
  · rw [get?, get?, h]
  · rw [get?_eq_none (by simp [hset, ht]), get?_eq_none (by simp [hunset])]
  · rw [get?_eq_none (by simp [hunset]), get?_eq_none (by simp [hset, ht])]

end Environment

namespace Settings

variable {env env' : Environment}

/-- The currency symbol of an environment: the variable as it stands, or the usual symbol. -/
def symbolOf (env : Environment) : Text := (env .currencySymbol).getD ({} : Format).symbol

/-- The same settings but for the currency symbol. -/
def withSymbol (symbol : Text) (s : Settings) : Settings :=
  { s with format := { s.format with symbol } }

/-! ## What is read through `get?` -/

section Congr

variable (h : env.get? = env'.get?)

include h

theorem getD_congr : env.getD = env'.getD := by
  funext v default
  rw [Environment.getD, Environment.getD, h]

theorem require_congr : require env = require env' := by
  funext v
  rw [require, require, h]

theorem readD_congr {α : Type} : readD (α := α) env = readD env' := by
  funext v default f
  rw [readD, readD, h]

theorem readPlace_congr : readPlace env = readPlace env' := by
  funext bindAddress
  rw [readPlace, readPlace, readFolder, readFolder, readBucket, readBucket, getD_congr h,
    require_congr h, h]

/-- **Only the currency symbol is not read through `get?`.** -/
theorem read_congr : read env' = (read env).map (withSymbol (symbolOf env')) := by
  change _ = withSymbol (symbolOf env') <$> read env
  simp only [read, getD_congr h, require_congr h, readD_congr h, readPlace_congr h, map_bind]
  rfl

end Congr

theorem symbol_of_read {s : Settings} (h : read env = .ok s) : s.format.symbol = symbolOf env := by
  have hread := read_congr (rfl : env.get? = env.get?)
  rw [h] at hread
  exact congrArg (fun s : Settings => s.format.symbol) (Except.ok.inj hread)

/-! ## Blank variables -/

/-- A blank is not the usual symbol, so setting the variable to one changes the symbol. -/
theorem symbolOf_eq_iff (h : env.AgreeButBlank env') :
    symbolOf env = symbolOf env' ↔ env .currencySymbol = env' .currencySymbol := by
  have husual : ∀ t, Text.allBlank t = true → t ≠ ({} : Format).symbol := by
    rintro t ht rfl
    cases ht
  refine ⟨fun hsymbol => ?_, fun hvar => by rw [symbolOf, symbolOf, hvar]⟩
  rcases h .currencySymbol with heq | ⟨t, ht, ⟨hset, hunset⟩ | ⟨hunset, hset⟩⟩
  · exact heq
  · rw [symbolOf, symbolOf, hset, hunset] at hsymbol
    exact absurd hsymbol (husual t ht)
  · rw [symbolOf, symbolOf, hset, hunset] at hsymbol
    exact absurd hsymbol.symm (husual t ht)

/-- **Blank variables count as unset, but for the currency symbol.**  Environments that agree but
for blanks have the same error, or the same settings apart from the symbol; so what is read is the
same exactly when the symbol is not among the variables that differ, or nothing can be read. -/
theorem read_agreeButBlank (h : env.AgreeButBlank env') :
    read env' = (read env).map (withSymbol (symbolOf env')) ∧
      (read env = read env' ↔
        env .currencySymbol = env' .currencySymbol ∨ ∃ e, read env = .error e) := by
  have hmap := read_congr h.get?_eq
  refine ⟨hmap, ?_⟩
  rw [← symbolOf_eq_iff h]
  cases hread : read env with
  | error e =>
    rw [hread] at hmap
    exact ⟨fun _ => .inr ⟨e, rfl⟩, fun _ => hmap.symm⟩
  | ok s =>
    have hsymbol := symbol_of_read hread
    rw [hread] at hmap
    constructor
    · intro hsame
      rw [← hsymbol, symbol_of_read hsame.symm]
      exact .inl rfl
    · rintro (hsame | ⟨e, he⟩)
      · rw [hmap, ← hsame, ← hsymbol]
        rfl
      · cases he

/-- Settings with three blank variables, one of which would be refused if it were not blank, are
those of the registry's address alone. -/
theorem read_agreeButBlank_three :
    let env : Environment := fun v => if v = .databaseUrl then some "db".toList else none
    let env' : Environment := fun v =>
      if v = .databaseUrl then some "db".toList
      else if v = .bindAddress then some []
      else if v = .storageBackend ∨ v = .blankTopMargin then some [' ', '\t'] else none
    env.AgreeButBlank env' ∧ read env = read env' := by
  intro env env'
  have hagree : env.AgreeButBlank env' := by
    intro v
    cases v <;> first | exact .inl rfl | exact .inr ⟨_, rfl, .inr ⟨rfl, rfl⟩⟩
  exact ⟨hagree, (read_agreeButBlank hagree).2.2 (.inl rfl)⟩

/-- **A blank currency symbol is not read like one that is not set.** -/
theorem read_blankSymbol_ne :
    let env : Environment := fun v => if v = .databaseUrl then some "db".toList else none
    let env' : Environment := fun v =>
      if v = .databaseUrl then some "db".toList
      else if v = .currencySymbol then some [] else none
    env.AgreeButBlank env' ∧ read env ≠ read env' := by
  intro env env'
  refine ⟨fun v => ?_, fun hread => ?_⟩
  · cases v <;> first | exact .inl rfl | exact .inr ⟨[], rfl, .inr ⟨rfl, rfl⟩⟩
  · have hread' : ∃ s, read env' = .ok s := ⟨_, rfl⟩
    obtain ⟨s, hs⟩ := hread'
    have hsymbol := symbol_of_read hs
    rw [← hread] at hs
    rw [symbol_of_read hs] at hsymbol
    cases hsymbol

end Settings

end Conveyance
