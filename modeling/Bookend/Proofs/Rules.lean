import Bookend.Settings.Read
import Mathlib.Data.List.Nodup

namespace Bookend

namespace Settings

/-- The names that a log level may have. -/
def levelNames : List String := ["trace", "debug", "info", "warn", "error"]

/-- A capital of the twenty-six becomes the small letter. All else stays as it is. -/
def small (c : Char) : Char := if 'A' ≤ c ∧ c ≤ 'Z' then Char.ofNat (c.toNat + 32) else c

/-- What is asked of settings. -/
inductive Rule
  | knownLevel
  | startupRange
  | cleanupRange
  | codesApart
  deriving DecidableEq, Repr

namespace Rule

/-- The order in which broken rules are told. -/
def all : List Rule := [knownLevel, startupRange, cleanupRange, codesApart]

def Kept (s : Settings) : Rule → Prop
  | knownLevel => s.observability.logLevel.toList.map small ∈ levelNames.map String.toList
  | startupRange => 1 ≤ s.exit.startupFailure.toInt ∧ s.exit.startupFailure.toInt ≤ 255
  | cleanupRange => 1 ≤ s.exit.cleanupFailure.toInt ∧ s.exit.cleanupFailure.toInt ≤ 255
  | codesApart => s.exit.startupFailure ≠ s.exit.cleanupFailure

instance (s : Settings) : DecidablePred (Kept s)
  | knownLevel => inferInstanceAs (Decidable (_ ∈ _))
  | startupRange => inferInstanceAs (Decidable (_ ∧ _))
  | cleanupRange => inferInstanceAs (Decidable (_ ∧ _))
  | codesApart => inferInstanceAs (Decidable (_ ≠ _))

/-- How it is told that the rule is broken. A level is told as it was written. -/
def fault (s : Settings) : Rule → Fault
  | knownLevel => .unknownLogLevel s.observability.logLevel
  | startupRange => .exitCodeOutOfRange .startup s.exit.startupFailure
  | cleanupRange => .exitCodeOutOfRange .cleanup s.exit.cleanupFailure
  | codesApart => .ambiguousExitCodes s.exit.startupFailure

theorem mem_all (r : Rule) : r ∈ all := by
  cases r <;> decide

theorem fault_injective (s : Settings) : Function.Injective (fault s) := by
  intro q r h
  cases q <;> cases r <;> simp [fault] at h ⊢

end Rule

/-- The faults of the broken rules. -/
def violations (s : Settings) : List Fault :=
  (Rule.all.filter fun r => ¬ r.Kept s).map (Rule.fault s)

/-- The text is a document, and the document stands for these settings. -/
def WrittenIn (s : Settings) (text : String) : Prop :=
  ∃ v, Toml.read text.toList = some v ∧ decode .toml v = some s

section
variable {s c : Settings} {text : String} {fs : List Fault}

theorem toLower_eq_small (c : Char) : c.toLower = small c := by
  have hrange : 'A' ≤ c ∧ c ≤ 'Z' ↔ c.val ≥ 'A'.val ∧ c.val ≤ 'Z'.val := Iff.rfl
  unfold Char.toLower small
  by_cases h : c.val ≥ 'A'.val ∧ c.val ≤ 'Z'.val
  · rw [dif_pos h, if_pos (hrange.mpr h)]
    have hlast : c.val.toNat ≤ 90 := UInt32.le_iff_toNat_le.mp h.2
    have hsum : (c.val + ('a'.val - 'A'.val)).toNat = c.toNat + 32 := by
      rw [UInt32.toNat_add]
      change (c.val.toNat + 32) % 2 ^ 32 = c.val.toNat + 32
      omega
    rw [← hsum]
    exact (Char.ofNat_toNat _).symm
  · rw [dif_neg h, if_neg (mt hrange.mp h)]

/-- A level's name is found exactly if it is one of the five names but for capitals. -/
theorem isSome_ofName? (name : String) :
    (Level.ofName? name).isSome ↔ name.toList.map small ∈ levelNames.map String.toList := by
  have hlower : name.toLower.toList = name.toList.map small := by
    have hmap : name.toLower.toList = name.toList.map Char.toLower := String.toList_map
    rw [hmap]
    exact List.map_congr_left fun c _ => toLower_eq_small c
  have hnames : levelNames = Level.all.map Level.text := rfl
  rw [← hlower, hnames, List.map_map]
  simp [Level.ofName?, List.find?_isSome, ← String.toList_inj]

theorem isFailureCode_iff (c : Int32) : isFailureCode c ↔ 1 ≤ c.toInt ∧ c.toInt ≤ 255 := by
  simp [isFailureCode]

/-- The settings are looked at for each rule in turn. -/
theorem faults_eq_flatMap (s : Settings) :
    s.faults = Rule.all.flatMap fun r => if r.Kept s then [] else [r.fault s] := by
  have hlevel : s.levelFaults =
      if Rule.knownLevel.Kept s then [] else [Rule.knownLevel.fault s] :=
    if_congr (isSome_ofName? _) rfl rfl
  have hstartup : codeFaults .startup s.exit.startupFailure =
      if Rule.startupRange.Kept s then [] else [Rule.startupRange.fault s] :=
    if_congr (isFailureCode_iff _) rfl rfl
  have hcleanup : codeFaults .cleanup s.exit.cleanupFailure =
      if Rule.cleanupRange.Kept s then [] else [Rule.cleanupRange.fault s] :=
    if_congr (isFailureCode_iff _) rfl rfl
  have hcodes : s.equalityFaults =
      if Rule.codesApart.Kept s then [] else [Rule.codesApart.fault s] :=
    (ite_not _ _ _).symm
  simp only [faults, hlevel, hstartup, hcleanup, hcodes, Rule.all, List.flatMap_cons,
    List.flatMap_nil, List.append_nil, List.append_assoc]

theorem faults_eq_violations (s : Settings) : s.faults = s.violations := by
  have hparts (rs : List Rule) : (rs.flatMap fun r => if r.Kept s then [] else [r.fault s]) =
      (rs.filter fun r => ¬ r.Kept s).map (Rule.fault s) := by
    induction rs with
    | nil => rfl
    | cons r rs ih => by_cases h : r.Kept s <;> simp [h, ih]
  rw [faults_eq_flatMap, hparts, violations]

theorem violations_nodup (s : Settings) : s.violations.Nodup :=
  List.Nodup.map (Rule.fault_injective s) (List.Nodup.filter _ (by decide))

theorem violations_eq_nil : s.violations = [] ↔ ∀ r : Rule, r.Kept s := by
  simp [violations, Rule.mem_all]

theorem check_eq_ok : s.check = .ok c ↔ c = s ∧ ∀ r : Rule, r.Kept s := by
  rw [← violations_eq_nil, ← faults_eq_violations]
  unfold check
  cases s.faults with
  | nil => simp [eq_comm]
  | cons f rest => simp

theorem check_eq_error : s.check = .error fs ↔ fs = s.violations ∧ ∃ r : Rule, ¬ r.Kept s := by
  rw [← not_forall, ← violations_eq_nil, ← faults_eq_violations]
  unfold check
  cases s.faults with
  | nil => simp
  | cons f rest => simp [eq_comm]

theorem ofText?_eq_some : ofText? text = some s ↔ s.WrittenIn text := by
  simp [ofText?, WrittenIn, Option.bind_eq_some_iff]

theorem ofText?_eq_none : ofText? text = none ↔ ∀ c : Settings, ¬ c.WrittenIn text := by
  simp [← ofText?_eq_some, Option.eq_none_iff_forall_ne_some]

/-- A parse judges the settings that are written in the text as a check does. -/
theorem parse_of_ofText? (h : ofText? text = some s) :
    parse text = s.check.mapError .validation := by
  unfold parse
  rw [h]
  cases hcheck : s.check <;> simp [Except.mapError, hcheck]

theorem parse_of_none (h : ofText? text = none) : parse text = .error .parse := by
  unfold parse
  rw [h]

theorem parse_eq_ok : parse text = .ok s ↔ s.WrittenIn text ∧ ∀ r : Rule, r.Kept s := by
  rw [← ofText?_eq_some]
  cases hread : ofText? text with
  | none => simp [parse_of_none hread]
  | some a =>
    have hpassed : a.check.mapError SettingsError.validation = .ok s ↔ a.check = .ok s := by
      cases a.check <;> simp [Except.mapError]
    rw [parse_of_ofText? hread, hpassed, check_eq_ok, Option.some.injEq]
    constructor
    · rintro ⟨rfl, hkept⟩
      exact ⟨rfl, hkept⟩
    · rintro ⟨rfl, hkept⟩
      exact ⟨rfl, hkept⟩

theorem parse_eq_validation : parse text = .error (.validation fs) ↔
    ∃ c : Settings, c.WrittenIn text ∧ fs = c.violations ∧ ∃ r : Rule, ¬ r.Kept c := by
  simp only [← ofText?_eq_some, ← check_eq_error]
  cases hread : ofText? text with
  | none => simp [parse_of_none hread]
  | some a =>
    rw [parse_of_ofText? hread]
    cases hcheck : a.check <;> simp [Except.mapError, hcheck]

theorem parse_eq_parse : parse text = .error .parse ↔ ∀ c : Settings, ¬ c.WrittenIn text := by
  rw [← ofText?_eq_none]
  cases hread : ofText? text with
  | none => simp [parse_of_none hread]
  | some a =>
    rw [parse_of_ofText? hread]
    cases a.check <;> simp [Except.mapError]

theorem parse_ne_file (text : String) (f : FileFault) : parse text ≠ .error (.file f) := by
  cases hread : ofText? text with
  | none => simp [parse_of_none hread]
  | some a =>
    rw [parse_of_ofText? hread]
    cases a.check <;> simp [Except.mapError]

theorem load_toUTF8 (text : String) : load (.ok text.toUTF8) = parse text := by
  have hvalid : text.toUTF8.IsValidUTF8 := text.isValidUTF8
  have hread : String.fromUTF8? text.toUTF8 = some text := dif_pos hvalid
  simp only [load, hread]

/-- Bytes are refused as such only if they are no text at all. -/
theorem load_eq_notText {bytes : ByteArray} :
    load (.ok bytes) = .error (.file .notText) ↔ ∀ t : String, bytes ≠ t.toUTF8 := by
  constructor
  · rintro hload t rfl
    rw [load_toUTF8] at hload
    exact parse_ne_file t _ hload
  · intro hnone
    have hread : String.fromUTF8? bytes = none :=
      dif_neg fun hvalid => hnone (String.fromUTF8 bytes hvalid) rfl
    simp only [load, hread]

/-- The first text, and each further one behind a comma. -/
theorem message_validation (f : Fault) (fs : List Fault) :
    (SettingsError.validation (f :: fs)).message =
      "Validation failed: " ++ f.text ++ String.join (fs.map fun g => ", " ++ g.text) := by
  have hjoined : ", ".intercalate ((f :: fs).map Fault.text) =
      f.text ++ String.join (fs.map fun g => ", " ++ g.text) := by
    induction fs generalizing f with
    | nil => simp
    | cons g rest ih =>
      simp only [List.map_cons] at ih ⊢
      rw [String.intercalate_cons_cons, ih, String.join_cons]
      simp only [String.append_assoc]
  rw [String.append_assoc, ← hjoined]
  rfl

/-- A check lets settings pass that keep every rule, and of all others it tells each broken rule
once, in the order of the rules. A parse makes the same judgement on the settings that a text
holds, and is at a loss only where it holds none; a file is judged as its text is. -/
theorem rules_judge (s : Settings) (text : String) :
    (∀ c, s.check = .ok c ↔ c = s ∧ ∀ r : Rule, r.Kept s) ∧
      (∀ fs, s.check = .error fs ↔ fs = s.violations ∧ ∃ r : Rule, ¬ r.Kept s) ∧
      s.violations.Nodup ∧
      (∀ c, parse text = .ok c ↔ c.WrittenIn text ∧ ∀ r : Rule, r.Kept c) ∧
      (∀ fs, parse text = .error (.validation fs) ↔
        ∃ c : Settings, c.WrittenIn text ∧ fs = c.violations ∧ ∃ r : Rule, ¬ r.Kept c) ∧
      (parse text = .error .parse ↔ ∀ c : Settings, ¬ c.WrittenIn text) ∧
      (∀ f fs, (SettingsError.validation (f :: fs)).message =
        "Validation failed: " ++ f.text ++ String.join (fs.map fun g => ", " ++ g.text)) ∧
      load (.ok text.toUTF8) = parse text ∧
      ∀ bytes, load (.ok bytes) = .error (.file .notText) ↔ ∀ t : String, bytes ≠ t.toUTF8 :=
  ⟨fun _ => check_eq_ok, fun _ => check_eq_error, violations_nodup s, fun _ => parse_eq_ok,
    fun _ => parse_eq_validation, parse_eq_parse, message_validation, load_toUTF8 text,
    fun _ => load_eq_notText⟩

/-- That the codes are the same is told even where neither is in range. -/
example : check ⟨{ logLevel := "LOUD" }, {}, ⟨0, 0⟩⟩ = .error
    [.unknownLogLevel "LOUD", .exitCodeOutOfRange .startup 0, .exitCodeOutOfRange .cleanup 0,
      .ambiguousExitCodes 0] := by
  cbv

end
end Settings
end Bookend
