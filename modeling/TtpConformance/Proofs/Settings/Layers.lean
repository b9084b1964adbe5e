import Mathlib.Data.Bool.AllAny
import TtpConformance.Proofs.Settings.Fields
import TtpConformance.Proofs.Text.Words
import TtpConformance.Proofs.Toml.Names

/-!
# Layers of settings

What is loaded of a field depends on nothing but what a file and the environment give at the
field's path: the environment's value, else the file's, else the default.  Variables reach
different places, so each of them puts its value where no other one touches it, and a table
of timing values is merged into that of the file name by name.

## Main definitions

* `fileTable?`, `variablePaths`, `variableAt?` — what a file and an environment give.
* `IsUnknown` — paths that lead to no field.
* `WellTyped` — sources whose values fit the fields and whose variables do not meet.
* `given?` — what the sources give a field.

## Main statements

* `at?_foldl_addVariable`, `clear_foldl_addVariable` — the environment's table, path by path.
* `settingPath?_variable` — the variables of the fields, in letters of either case.
* `load_fieldwise` — loading.
-/

namespace TtpConformance.Settings

/-! ## The environment -/

section Environment

/-- The paths that the variables of an environment give. -/
def variablePaths (environment : List (String × String)) : List (String × List String) :=
  environment.filterMap fun (name, _) => settingPath? name

/-- The value of the variable whose name gives a path. -/
def variableAt? (environment : List (String × String)) (path : String × List String) :
    Option Setting :=
  environment.findSome? fun (name, text) =>
    if settingPath? name = some path then some (readVariable text) else none

/-- One variable laid over those before it. -/
def addVariable (layer : SettingTable) : (entry : String × String) → SettingTable
  | (name, text) =>
    match settingPath? name with
    | none => layer
    | some (first, below) => (Setting.nest first below (readVariable text)).over layer

variable {environment : List (String × String)} {path other : String × List String}
  {name text : String}

theorem variableLayer_eq (environment : List (String × String)) :
    variableLayer environment = environment.foldl addVariable [] := rfl

theorem variablePaths_cons_of_some (h : settingPath? name = some other) :
    variablePaths ((name, text) :: environment) = other :: variablePaths environment := by
  simp [variablePaths, h]

theorem variablePaths_cons_of_none (h : settingPath? name = none) :
    variablePaths ((name, text) :: environment) = variablePaths environment := by
  simp [variablePaths, h]

theorem variableAt?_cons_self (h : settingPath? name = some path) :
    variableAt? ((name, text) :: environment) path = some (readVariable text) := by
  simp [variableAt?, h]

theorem variableAt?_cons_of_ne (h : settingPath? name ≠ some path) :
    variableAt? ((name, text) :: environment) path = variableAt? environment path := by
  simp [variableAt?, h]

theorem variableAt?_eq_none (h : path ∉ variablePaths environment) :
    variableAt? environment path = none :=
  List.findSome?_eq_none_iff.mpr fun entry hentry => if_neg fun hpath =>
    h (List.mem_filterMap.mpr ⟨entry, hentry, hpath⟩)

/-- A path stays clear under an environment, unless it goes on below a variable's. -/
theorem clear_foldl_addVariable
    (h : ∀ other ∈ variablePaths environment, steps other <+: steps path → other = path)
    {layer : SettingTable} (hlayer : layer.Clear path.1 path.2) :
    (environment.foldl addVariable layer).Clear path.1 path.2 := by
  induction environment generalizing layer with
  | nil => exact hlayer
  | cons entry environment ih =>
      obtain ⟨name, text⟩ := entry
      rw [List.foldl_cons, addVariable]
      cases hname : settingPath? name with
      | none =>
          rw [variablePaths_cons_of_none hname] at h
          exact ih h hlayer
      | some other =>
          rw [variablePaths_cons_of_some hname] at h
          refine ih (fun other hother => h other (List.mem_cons_of_mem _ hother)) ?_
          exact hlayer.nest_over fun hleads =>
            congrArg steps (h other List.mem_cons_self hleads)

/-- What variables put at a path, where one of them at most goes and no other comes near. -/
theorem at?_foldl_addVariable (hnodup : (variablePaths environment).Nodup)
    (h : ∀ other ∈ variablePaths environment, other = path ∨ Apart (steps other) (steps path))
    (hfits : ∀ v, variableAt? environment path = some v → ∀ old?, v.over old? = v)
    (layer : SettingTable) :
    (environment.foldl addVariable layer).at? path.1 path.2 =
      (variableAt? environment path).or (layer.at? path.1 path.2) := by
  induction environment generalizing layer with
  | nil => rfl
  | cons entry environment ih =>
      obtain ⟨name, text⟩ := entry
      rw [List.foldl_cons, addVariable]
      cases hname : settingPath? name with
      | none =>
          rw [variablePaths_cons_of_none hname] at hnodup h
          rw [variableAt?_cons_of_ne (by simp [hname])] at hfits ⊢
          exact ih hnodup h hfits layer
      | some other =>
          rw [variablePaths_cons_of_some hname] at hnodup h
          obtain ⟨hfresh, hrest⟩ := List.nodup_cons.mp hnodup
          have hothers := fun p (hp : p ∈ variablePaths environment) =>
            h p (List.mem_cons_of_mem _ hp)
          by_cases hother : other = path
          · subst hother
            rw [variableAt?_cons_self hname] at hfits ⊢
            have hnone := variableAt?_eq_none hfresh
            rw [ih hrest hothers (fun v hv => by rw [hnone] at hv; cases hv), hnone,
              at?_nest_over_self, hfits _ rfl]
            rfl
          · have hapart := (h other List.mem_cons_self).resolve_left hother
            rw [variableAt?_cons_of_ne (by simpa [hname] using hother)] at hfits ⊢
            rw [ih hrest hothers hfits, at?_nest_over_of_apart hapart]

/-- White space has no lower case of its own. -/
theorem toLower_of_isBlank {c : Char} (h : Text.isBlank c = true) : c.toLower = c := by
  delta Char.toLower
  split
  · rename_i hupper
    exfalso
    have hvalue : c.val.toNat = c.toNat := rfl
    have hrange : 0x41 ≤ c.toNat ∧ c.toNat ≤ 0x5A := by
      simp only [UInt32.le_iff_toNat_le, hvalue, ge_iff_le] at hupper
      simpa using hupper
    simp only [Text.isBlank] at h
    grind
  · rfl

/-- The name of the variable for a field, in lower case. -/
def Field.variable (f : Field) : String := "ttp_harness_" ++ "__".intercalate (steps f.path)

/-- A field's variable leads to the field, in letters of either case. -/
theorem settingPath?_variable {f : Field} {name : String}
    (h : lowerCase name.toList = f.variable.toList) : settingPath? name = some f.path := by
  have hfirm : ∀ c ∈ f.variable.toList, Text.isBlank c = false := by
    rw [← List.all_iff_forall_prop]
    cases f <;> decide +kernel
  have htrim : Text.trim name.toList = name.toList := by
    refine Text.dropAround_eq_self fun c hc => Bool.eq_false_iff.mpr fun hblank => ?_
    have hlower : c.toLower ∈ f.variable.toList := h ▸ List.mem_map_of_mem hc
    rw [toLower_of_isBlank hblank] at hlower
    exact Bool.false_ne_true ((hfirm c hlower).symm.trans hblank)
  rw [settingPath?, htrim, h]
  cases f <;> decide +kernel

end Environment

/-! ## Sources -/

/-- The table of a settings file, which may be missing. -/
def fileTable? : (file : Option String) → Option SettingTable
  | none => some []
  | some text => Toml.read? text

/-- A path that is neither a field's nor below one, nor the timing's. -/
def IsUnknown (path : String × List String) : Prop :=
  path ≠ ("timing", []) ∧ ∀ f : Field, ¬steps f.path <+: steps path

/-- A file and an environment whose values fit the fields.  The variables give different
paths, and none of them stands for the timing as a whole or goes on below a field. -/
structure WellTyped (file : Option String) (table : SettingTable)
    (environment : List (String × String)) : Prop where
  reads : fileTable? file = some table
  nodup : (variablePaths environment).Nodup
  paths : ∀ path ∈ variablePaths environment, (∃ f : Field, path = f.path) ∨ IsUnknown path
  timing : ∀ v, table.get? "timing" = some v → ∃ inner, v = .table inner
  fileFits : ∀ (f : Field) v, f.at? table = some v → f.Fits v
  environmentFits : ∀ (f : Field) v, variableAt? environment f.path = some v → f.Fits v

/-- What the sources give a field. -/
def given? (table : SettingTable) (environment : List (String × String)) (f : Field) :
    Option Setting :=
  (variableAt? environment f.path).or (f.at? table)

theorem exists_fileLayer?_eq_some {file : Option String} {table : SettingTable}
    (h : fileTable? file = some table) :
    ∃ layer, fileLayer? file.toList = some layer ∧
      ∀ first below, layer.at? first below = table.at? first below := by
  cases file with
  | none =>
      cases h
      exact ⟨[], rfl, fun _ _ => rfl⟩
  | some text =>
      have hread : Toml.read? text = some table := h
      refine ⟨SettingTable.over table [], ?_, SettingTable.at?_over_nil (Toml.nodup_of_read? hread)⟩
      simp [fileLayer?, hread]

section Loading

variable {file : Option String} {table : SettingTable} {environment : List (String × String)}

theorem WellTyped.eq_or_apart (h : WellTyped file table environment) (f : Field) :
    ∀ path ∈ variablePaths environment, path = f.path ∨ Apart (steps path) (steps f.path) := by
  intro path hpath
  rcases h.paths path hpath with ⟨g, rfl⟩ | ⟨htiming, hunknown⟩
  · by_cases hg : g = f
    · exact .inl (congrArg Field.path hg)
    · exact .inr (Field.apart_of_ne hg)
  · refine .inr ⟨fun hleads => ?_, hunknown f⟩
    rcases Field.path_eq_of_leads hleads with rfl | heq
    · exact hunknown f (List.prefix_refl _)
    · exact htiming heq

theorem WellTyped.clear (h : WellTyped file table environment) (f : Field) :
    (variableLayer environment).Clear f.path.1 f.path.2 :=
  clear_foldl_addVariable (fun path hpath hleads =>
    (h.eq_or_apart f path hpath).resolve_right fun hapart => hapart.1 hleads)
    (SettingTable.clear_nil _ _)

/-- What the table of all sources has for a field. -/
theorem WellTyped.at?_over (h : WellTyped file table environment) {layer : SettingTable}
    (hlayer : ∀ first below, layer.at? first below = table.at? first below) (f : Field) :
    f.at? (SettingTable.over (variableLayer environment) layer) = given? table environment f := by
  have hvariable : (variableLayer environment).at? f.path.1 f.path.2 =
      variableAt? environment f.path := by
    have hfold := at?_foldl_addVariable h.nodup (h.eq_or_apart f)
      (fun v hv => (h.environmentFits f v hv).over) []
    rw [variableLayer_eq, hfold, SettingTable.at?_nil_table, Option.or_none]
  rw [Field.at?, SettingTable.at?_over (h.clear f), hvariable, hlayer, given?]
  cases hgiven : variableAt? environment f.path with
  | none => rfl
  | some v => exact congrArg some ((h.environmentFits f v hgiven).over _)

theorem WellTyped.timing_over (h : WellTyped file table environment) {layer : SettingTable}
    (hlayer : ∀ first below, layer.at? first below = table.at? first below) :
    ∀ v, (SettingTable.over (variableLayer environment) layer).get? "timing" = some v →
      ∃ inner, v = .table inner := by
  have hclear := h.clear .exchangeMs
  intro v hv
  rw [SettingTable.get?_over hclear.nodup] at hv
  cases hnew : (variableLayer environment).get? "timing" with
  | none =>
      rw [hnew] at hv
      exact h.timing v ((hlayer "timing" []).symm.trans hv)
  | some upper =>
      obtain ⟨inner, rfl, -⟩ := hclear.2 upper hnew
      rw [hnew] at hv
      obtain rfl := Option.some.inj hv
      rcases SettingTable.over_table_cases inner layer "timing" with hover | ⟨-, hover⟩
      · exact ⟨_, hover⟩
      · exact ⟨_, hover⟩

/-- What well typed sources give is what is loaded. -/
theorem WellTyped.exists_load_eq_ok (h : WellTyped file table environment) :
    ∃ s, load file.toList environment = .ok s ∧
      ∀ f : Field, f.value s = (given? table environment f).getD (f.value {}) := by
  obtain ⟨layer, hread, hlayer⟩ := exists_fileLayer?_eq_some h.reads
  have hgiven := h.at?_over hlayer
  obtain ⟨s, hload, hvalues⟩ := exists_ofTable_eq_ok (h.timing_over hlayer) fun f v hv => by
    rw [hgiven, given?] at hv
    rcases Option.or_eq_some_iff.mp hv with hv | ⟨-, hv⟩
    · exact h.environmentFits f v hv
    · exact h.fileFits f v hv
  refine ⟨s, ?_, fun f => by rw [hvalues, hgiven]⟩
  rw [load, hread]
  exact hload

/--
What is loaded of a field is what the environment gives for it, else what the file gives,
else its default.  So two pairs of sources that give a field the same load the same for it,
whatever they give other fields, of the timing or not; and pairs that give all fields the
same load the same settings, whatever else stands in them.  Without a file and without
variables the settings are the default ones.
-/
theorem load_fieldwise (h : WellTyped file table environment) :
    ∃ s, load file.toList environment = .ok s ∧
      (∀ f : Field, f.value s =
        (variableAt? environment f.path).getD ((f.at? table).getD (f.value {}))) ∧
      (∀ (file' : Option String) (table' : SettingTable) (environment' : List (String × String)),
        WellTyped file' table' environment' →
          ∃ s', load file'.toList environment' = .ok s' ∧
            (∀ f : Field, given? table' environment' f = given? table environment f →
              f.value s' = f.value s) ∧
            ((∀ f : Field, given? table' environment' f = given? table environment f) →
              s' = s)) ∧
      load [] [] = .ok {} := by
  obtain ⟨s, hload, hvalues⟩ := h.exists_load_eq_ok
  refine ⟨s, hload, fun f => ?_, fun file' table' environment' h' => ?_, rfl⟩
  · rw [hvalues, given?, Option.getD_or]
  · obtain ⟨s', hload', hvalues'⟩ := h'.exists_load_eq_ok
    have hsame (f : Field)
        (hgiven : given? table' environment' f = given? table environment f) :
        f.value s' = f.value s := by
      rw [hvalues', hvalues, hgiven]
    exact ⟨s', hload', hsame, fun hall => Field.value_injective fun f => hsame f (hall f)⟩

end Loading

/-- A file and an environment that meet in the timing, with a variable in lower case, one that
is no setting and one that is none of the harness's. -/
theorem load_fieldwise_merged_timing :
    let file := some "lock_dir = \"/tmp/locks\"\n\n[timing]\ngateway_attempts = 3\n"
    let table : SettingTable :=
      [("lock_dir", .text "/tmp/locks"), ("timing", .table [("gateway_attempts", .whole 3)])]
    let environment := [("TTP_HARNESS_TIMING__EXCHANGE_MS", "250"),
      ("ttp_harness_lock_dir", "/srv"), ("TTP_HARNESS_COLOR", "red"), ("HOME", "/root")]
    WellTyped file table environment ∧
      ∃ s, load file.toList environment = .ok s ∧ s.lockDir = "/srv" ∧
        s.timing.gatewayAttempts = 3 ∧ s.timing.exchangeMs = 250 ∧
        s.timing.gatewayIntervalMs = 1000 := by
  intro file table environment
  have hvariables (path : String × List String) : variableAt? environment path =
      if path = ("timing", ["exchange_ms"]) then some (.whole 250)
      else if path = ("lock_dir", []) then some (.text "/srv")
      else if path = ("color", []) then some (.text "red") else none := by
    have hexchange : settingPath? "TTP_HARNESS_TIMING__EXCHANGE_MS" =
        some ("timing", ["exchange_ms"]) := by decide +kernel
    have hlock : settingPath? "ttp_harness_lock_dir" = some ("lock_dir", []) := by decide +kernel
    have hcolor : settingPath? "TTP_HARNESS_COLOR" = some ("color", []) := by decide +kernel
    have hhome : settingPath? "HOME" = none := by decide +kernel
    have hnumber : readVariable "250" = .whole 250 := rfl
    have hpath : readVariable "/srv" = .text "/srv" := by rfl
    have hred : readVariable "red" = .text "red" := by rfl
    simp only [environment, variableAt?, List.findSome?_cons, List.findSome?_nil, hexchange, hlock,
      hcolor, hhome, hnumber, hpath, hred, Option.some.injEq, reduceCtorEq, if_false,
      @eq_comm _ path]
    split_ifs <;> rfl
  have h : WellTyped file table environment := by
    have hpaths : variablePaths environment =
        [("timing", ["exchange_ms"]), ("lock_dir", []), ("color", [])] := by decide +kernel
    refine ⟨by decide +kernel, ?_, ?_, ?_, ?_, ?_⟩
    · rw [hpaths]
      decide
    · rw [hpaths]
      simp only [List.mem_cons, List.not_mem_nil, or_false, forall_eq_or_imp, forall_eq]
      refine ⟨.inl ⟨.exchangeMs, rfl⟩, .inl ⟨.lockDir, rfl⟩, .inr ⟨by decide, fun f => ?_⟩⟩
      cases f <;> decide
    · intro v hv
      exact ⟨_, (Option.some.inj hv).symm⟩
    · intro f v hv
      cases f <;> cases hv
      · exact ⟨_, rfl⟩
      · exact ⟨3, by decide, rfl⟩
    · intro f v hv
      rw [hvariables] at hv
      cases f <;> cases hv
      · exact ⟨_, rfl⟩
      · exact ⟨250, by decide, rfl⟩
  obtain ⟨s, hload, hvalues, -⟩ := load_fieldwise h
  have hlock := hvalues .lockDir
  have hattempts := hvalues .gatewayAttempts
  have hexchange := hvalues .exchangeMs
  have hinterval := hvalues .gatewayIntervalMs
  rw [hvariables] at hlock hattempts hexchange hinterval
  refine ⟨h, s, hload, Setting.text.inj hlock, ?_, ?_, ?_⟩
  · exact UInt32.toNat_inj.mp (Int.ofNat.inj (Setting.whole.inj hattempts))
  · exact UInt64.toNat_inj.mp (Int.ofNat.inj (Setting.whole.inj hexchange))
  · exact UInt64.toNat_inj.mp (Int.ofNat.inj (Setting.whole.inj hinterval))

end TtpConformance.Settings
