/-
  TableSync/Proofs/Config/Target.lean
  ===================================
  **Where a write client writes** — the path and the type that its
  configuration gets.

  The path and the type of a write configuration are those of the sync unless
  a write property names them (`writeConfig_target`).  A property that does is
  applied: nothing in the check of a write configuration looks at either.
-/
import TableSync.Config.Write
import TableSync.Proofs.Effect

namespace TableSync

/-! ## 1. Reading by parts -/

namespace Checked

variable {α β : Type}

theorem map_eq_ok {f : α → β} {x : Checked α} {b : β} :
    (f <$> x) = Except.ok b ↔ ∃ a, x = Except.ok a ∧ b = f a := by
  cases x with
  | error violations => exact ⟨nofun, fun ⟨_, h, _⟩ => nomatch h⟩
  | ok a => exact ⟨fun h => ⟨a, rfl, (Except.ok.inj h).symm⟩, fun ⟨_, ha, hb⟩ => by cases ha; subst hb; rfl⟩

theorem seq_eq_ok {f : Checked (α → β)} {x : Checked α} {b : β} :
    (f <*> x) = Except.ok b ↔ ∃ g a, f = Except.ok g ∧ x = Except.ok a ∧ b = g a := by
  cases f with
  | error earlier =>
    cases x with
    | error later => exact ⟨nofun, fun ⟨_, _, h, _⟩ => nomatch h⟩
    | ok a => exact ⟨nofun, fun ⟨_, _, h, _⟩ => nomatch h⟩
  | ok g =>
    cases x with
    | error later => exact ⟨nofun, fun ⟨_, _, _, h, _⟩ => nomatch h⟩
    | ok a =>
      refine ⟨fun h => ⟨g, a, rfl, rfl, (Except.ok.inj h).symm⟩, ?_⟩
      rintro ⟨_, _, hg, ha, rfl⟩
      cases hg
      cases ha
      rfl

theorem toExcept_eq_ok {model : String} {x : Checked α} {a : α} (h : x.toExcept model = .ok a) : x = Except.ok a := by
  cases x with
  | error violations => cases h
  | ok b => exact congrArg Except.ok (Except.ok.inj h)

end Checked

/-- Names that are not written keep their values. -/
theorem Fields.get?_putAll {α : Type} {extra : Fields α} {name : String} (h : Fields.get? extra name = none)
    (fields : Fields α) : Fields.get? (Fields.putAll fields extra) name = Fields.get? fields name := by
  unfold Fields.putAll
  induction extra generalizing fields with
  | nil => rfl
  | cons field rest ih =>
    obtain ⟨other, value⟩ := field
    rw [Fields.get?] at h
    split at h
    · cases h
    next hne =>
      rw [List.foldl_cons, ih h]
      exact Fields.get?_put_of_ne fields value hne

/-! ## 2. The path and the type -/

theorem TableType.get?_named (tableType : TableType) : Fields.get? TableType.named tableType.name = some tableType := by
  cases tableType <;> decide

namespace SyncConfig

variable {config : SyncConfig} {provider : Option SchemaProvider} {now : Timestamp} {found : WriteConfig}

/-- No write property names the path or the type of the table. -/
def KeepsTarget (config : SyncConfig) : Prop :=
  Fields.get? config.writeProps "base_path" = none ∧ Fields.get? config.writeProps "table_type" = none

theorem writeConfig_eq_ok (h : config.writeConfig provider now = .ok found) : ∃ fields,
    (config.baseWriteConfig provider).toValue = .object fields ∧
    WriteConfig.read (Fields.putAll fields config.writeProps) = Except.ok found ∧
    config.checkWriteConfig found now = .ok () := by
  obtain ⟨other, hread, h⟩ := bind_eq_ok.mp h
  obtain ⟨_, hcheck, hdone⟩ := bind_eq_ok.mp h
  cases hdone
  exact ⟨_, rfl, Checked.toExcept_eq_ok hread, hcheck⟩

theorem read_target {record : Record} {path : String} {tableType : TableType}
    (hread : WriteConfig.read record = Except.ok found)
    (hpath : Fields.get? record "base_path" = some (.text path))
    (htype : Fields.get? record "table_type" = some (.text tableType.name)) :
    found.basePath = path ∧ found.tableType = tableType := by
  unfold WriteConfig.read at hread
  obtain ⟨f₈, schema, hread₈, -, rfl⟩ := Checked.seq_eq_ok.mp hread
  obtain ⟨f₇, inline, hread₇, -, rfl⟩ := Checked.seq_eq_ok.mp hread₈
  obtain ⟨f₆, upsert, hread₆, -, rfl⟩ := Checked.seq_eq_ok.mp hread₇
  obtain ⟨f₅, insert, hread₅, -, rfl⟩ := Checked.seq_eq_ok.mp hread₆
  obtain ⟨f₄, auto, hread₄, -, rfl⟩ := Checked.seq_eq_ok.mp hread₅
  obtain ⟨f₃, payload, hread₃, -, rfl⟩ := Checked.seq_eq_ok.mp hread₄
  obtain ⟨f₂, type', hread₂, htype', rfl⟩ := Checked.seq_eq_ok.mp hread₃
  obtain ⟨f₁, name, hread₁, -, rfl⟩ := Checked.seq_eq_ok.mp hread₂
  obtain ⟨path', hpath', rfl⟩ := Checked.map_eq_ok.mp hread₁
  constructor
  · rw [Reader.required, hpath] at hpath'
    exact (Except.ok.inj hpath').symm
  · rw [Reader.optional, htype] at htype'
    simp only [Reader.choice, TableType.get?_named] at htype'
    exact (Except.ok.inj htype').symm

/-- A write client writes to the table of the sync unless a write property says otherwise. -/
theorem writeConfig_target (hkeeps : config.KeepsTarget) (h : config.writeConfig provider now = .ok found) :
    found.basePath = config.targetBasePath ∧ found.tableType = config.tableType := by
  obtain ⟨fields, hfields, hread, -⟩ := writeConfig_eq_ok h
  have hdescribed : Fields.get? fields "base_path" = some (.text config.targetBasePath) ∧
      Fields.get? fields "table_type" = some (.text config.tableType.name) := by
    simp only [baseWriteConfig, WriteConfig.toValue, Value.object.injEq] at hfields
    subst hfields
    simp [Fields.get?]
  refine read_target hread ?_ ?_
  · rw [Fields.get?_putAll hkeeps.1, hdescribed.1]
  · rw [Fields.get?_putAll hkeeps.2, hdescribed.2]

/-! ## 3. What no write property overrides -/

/-- A write configuration that was not refused keeps what the commit protocol relies on. -/
theorem writeConfig_settings (h : config.writeConfig provider now = .ok found) :
    found.autoCommit = false ∧ found.combineBeforeUpsert = true ∧ found.combineBeforeInsert = config.filterDupes ∧
      found.inlineCompaction = config.inlineCompaction := by
  obtain ⟨fields, -, -, hcheck⟩ := writeConfig_eq_ok h
  unfold checkWriteConfig at hcheck
  split at hcheck
  next hnone =>
    have hkept : ∀ setting ∈ config.writeSettings found, setting.2.1 = setting.2.2 := by
      intro setting hmem
      have hsame := List.find?_eq_none.mp hnone setting hmem
      simpa using hsame
    simp only [writeSettings, List.mem_cons, List.not_mem_nil, or_false, forall_eq_or_imp, forall_eq] at hkept
    obtain ⟨hinline, hauto, hinsert, hupsert⟩ := hkept
    exact ⟨hauto.symm, hupsert.symm, hinsert.symm, hinline.symm⟩
  next => cases hcheck

end SyncConfig

end TableSync
