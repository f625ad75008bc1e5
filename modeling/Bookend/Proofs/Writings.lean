import Bookend.Proofs.ExitStatus

namespace Bookend

/-- A field of a record: its key, what stands for its value, and when it may be left out. -/
structure Field where
  key : String
  written : Data → Prop
  implied : Prop

/-- What was found where the field is looked for. -/
def Field.Found (f : Field) : Option Data → Prop
  | some v => f.written v
  | none => f.implied

/-- Whatever stands for a record of these fields. In a table fields go by their keys, in any order
and among any others that are unknown; in a list they go by their places, so that only those at the
end may be left out. -/
inductive Record (fields : List Field) : Data → Prop
  | byName {kept : List (Field × Data)} {left : List Field}
      {unknown entries : List (String × Data)} (parts : fields.Perm (kept.map Prod.fst ++ left))
      (written : ∀ e ∈ kept, e.1.written e.2) (implied : ∀ f ∈ left, f.implied)
      (foreign : ∀ e ∈ unknown, ∀ f ∈ fields, e.1 ≠ f.key)
      (order : entries.Perm (kept.map (fun e => (e.1.key, e.2)) ++ unknown)) :
      Record fields (.table entries)
  | byPlace {kept : List (Field × Data)} {left : List Field}
      (parts : fields = kept.map Prod.fst ++ left)
      (written : ∀ e ∈ kept, e.1.written e.2) (implied : ∀ f ∈ left, f.implied) :
      Record fields (.list (kept.map Prod.snd))

section
variable {fields left : List Field} {kept : List (Field × Data)} {f : Field} {v : Data}
  {unknown entries : List (String × Data)}

/-- What is found is read as the value, and what is not is the default. -/
theorem Field.Found.orDefault {α : Type} {default a : α} {o : Option Data} (h : f.Found o)
    (read : Data → Option α) (hread : ∀ v, f.written v → read v = some a)
    (himplied : f.implied → a = default) : orDefault default read o = some a := by
  cases o with
  | none => exact congrArg some (himplied h).symm
  | some v => exact hread v h

/-- No other entry can be taken for that of a field. -/
theorem found_by_key (hkeys : (fields.map Field.key).Nodup)
    (parts : fields.Perm (kept.map Prod.fst ++ left)) (written : ∀ e ∈ kept, e.1.written e.2)
    (implied : ∀ f ∈ left, f.implied) (foreign : ∀ e ∈ unknown, ∀ f ∈ fields, e.1 ≠ f.key)
    (order : entries.Perm (kept.map (fun e => (e.1.key, e.2)) ++ unknown)) (hf : f ∈ fields) :
    f.Found (entries.lookup f.key) := by
  cases hfound : entries.lookup f.key with
  | some v =>
    obtain ⟨before, after, hentries, _⟩ := List.lookup_eq_some_iff.mp hfound
    have hin : (f.key, v) ∈ entries := by
      rw [hentries]
      exact List.mem_append_right _ List.mem_cons_self
    rcases List.mem_append.mp (order.mem_iff.mp hin) with hin | hin
    · obtain ⟨e, he, hsame⟩ := List.mem_map.mp hin
      obtain ⟨hkey, rfl⟩ := Prod.mk.inj hsame
      have hknown : e.1 ∈ fields :=
        parts.mem_iff.mpr (List.mem_append_left _ (List.mem_map_of_mem he))
      have hself : e.1 = f := List.inj_on_of_nodup_map hkeys hknown hf hkey
      rw [← hself]
      exact written e he
    · exact absurd rfl (foreign _ hin f hf)
  | none =>
    have hnone := List.lookup_eq_none_iff.mp hfound
    rcases List.mem_append.mp (parts.mem_iff.mp hf) with hkept | hleft
    · obtain ⟨e, he, rfl⟩ := List.mem_map.mp hkept
      have hin : (e.1.key, e.2) ∈ entries :=
        order.mem_iff.mpr (List.mem_append_left _ (List.mem_map_of_mem he))
      have hother := hnone _ hin
      simp at hother
    · exact implied f hleft

theorem found_by_place (parts : fields = kept.map Prod.fst ++ left)
    (written : ∀ e ∈ kept, e.1.written e.2) (implied : ∀ f ∈ left, f.implied) {i : Nat}
    (hf : fields[i]? = some f) : f.Found (kept.map Prod.snd)[i]? := by
  rw [parts] at hf
  rw [List.getElem?_map]
  by_cases hi : i < kept.length
  · have hin : kept[i]? = some kept[i] := List.getElem?_eq_getElem hi
    rw [List.getElem?_append_left (by simpa using hi), List.getElem?_map, hin] at hf
    rw [hin, ← Option.some.inj hf]
    exact written _ (List.getElem_mem hi)
  · have hout : kept.length ≤ i := Nat.not_lt.mp hi
    rw [List.getElem?_append_right (by simpa using hout)] at hf
    rw [List.getElem?_eq_none hout]
    exact implied f (List.mem_of_getElem? hf)

namespace Record

/-- In any dialect every field of a record is found. -/
theorem read (h : Record fields v) (hkeys : (fields.map Field.key).Nodup) (d : Dialect) :
    ∃ get, d.record? fields.length v = some get ∧
      ∀ (i : Nat) (f : Field), fields[i]? = some f → f.Found (get i f.key) := by
  cases h with
  | byName parts written implied foreign order =>
    refine ⟨_, rfl, ?_⟩
    intro i f hf
    exact found_by_key hkeys parts written implied foreign order (List.mem_of_getElem? hf)
  | @byPlace kept left parts written implied =>
    have hfits : (d.surplus || (kept.map Prod.snd).length ≤ fields.length) = true := by
      simp [parts]
    refine ⟨fun place _ => (kept.map Prod.snd)[place]?, if_pos hfits, ?_⟩
    intro i f hf
    exact found_by_place parts written implied hf

/-- Nothing has to be left out. -/
theorem whole (kept : List (Field × Data)) (written : ∀ e ∈ kept, e.1.written e.2) :
    Record (kept.map Prod.fst) (.table (kept.map fun e => (e.1.key, e.2))) := by
  refine @byName _ kept [] [] _ ?_ written ?_ ?_ ?_
  · rw [List.append_nil]
  · simp
  · simp
  · rw [List.append_nil]

end Record
end

theorem Data.int32?_ofInt32 (n : Int32) : (ofInt32 n).int32? = some n := by
  simp only [ofInt32, int32?]
  rw [if_pos ⟨Int32.minValue_le_toInt n, Int32.toInt_le n⟩, Int32.ofInt_toInt]

theorem LogFormat.decode_encode (d : Dialect) (f : LogFormat) : decode d f.encode = some f := by
  cases f <;> rfl

namespace Observability
variable {o : Observability} {v : Data}

def fields (o : Observability) : List Field :=
  [⟨"log_level", (· = .text o.logLevel), o.logLevel = ({} : Observability).logLevel⟩,
    ⟨"log_format", (· = o.logFormat.encode), o.logFormat = ({} : Observability).logFormat⟩]

theorem encode_record (o : Observability) : Record o.fields o.encode :=
  Record.whole (o.fields.zip [.text o.logLevel, o.logFormat.encode]) (by simp [fields])

theorem decode_record (h : Record o.fields v) (d : Dialect) : decode d v = some o := by
  obtain ⟨get, hget, hfound⟩ := h.read (by simp [fields]) d
  change d.record? 2 v = some get at hget
  have hlevel : orDefault _ Data.text? (get 0 "log_level") = some o.logLevel :=
    (hfound 0 _ rfl).orDefault Data.text? (by rintro _ rfl; rfl) id
  have hformat : orDefault _ (LogFormat.decode d) (get 1 "log_format") = some o.logFormat :=
    (hfound 1 _ rfl).orDefault (LogFormat.decode d)
      (by rintro _ rfl; exact LogFormat.decode_encode d _) id
  simp only [decode, hget, hlevel, hformat, bind, Option.bind]
  rfl

end Observability

namespace HookRules
variable {r : HookRules} {v : Data}

def fields (r : HookRules) : List Field :=
  [⟨"catch_panics", (· = .bool r.catchPanics), r.catchPanics = ({} : HookRules).catchPanics⟩,
    ⟨"unwind_on_startup_failure", (· = .bool r.unwindOnStartupFailure),
      r.unwindOnStartupFailure = ({} : HookRules).unwindOnStartupFailure⟩]

theorem encode_record (r : HookRules) : Record r.fields r.encode :=
  Record.whole (r.fields.zip [.bool r.catchPanics, .bool r.unwindOnStartupFailure])
    (by simp [fields])

theorem decode_record (h : Record r.fields v) (d : Dialect) : decode d v = some r := by
  obtain ⟨get, hget, hfound⟩ := h.read (by simp [fields]) d
  change d.record? 2 v = some get at hget
  have hcatching : orDefault _ Data.bool? (get 0 "catch_panics") = some r.catchPanics :=
    (hfound 0 _ rfl).orDefault Data.bool? (by rintro _ rfl; rfl) id
  have hunwinding : orDefault _ Data.bool? (get 1 "unwind_on_startup_failure") =
      some r.unwindOnStartupFailure :=
    (hfound 1 _ rfl).orDefault Data.bool? (by rintro _ rfl; rfl) id
  simp only [decode, hget, hcatching, hunwinding, bind, Option.bind]
  rfl

end HookRules

namespace ExitCodes
variable {e : ExitCodes} {v : Data}

def fields (e : ExitCodes) : List Field :=
  [⟨"startup_failure_code", (· = .ofInt32 e.startupFailure),
      e.startupFailure = ({} : ExitCodes).startupFailure⟩,
    ⟨"cleanup_failure_code", (· = .ofInt32 e.cleanupFailure),
      e.cleanupFailure = ({} : ExitCodes).cleanupFailure⟩]

theorem encode_record (e : ExitCodes) : Record e.fields e.encode :=
  Record.whole (e.fields.zip [.ofInt32 e.startupFailure, .ofInt32 e.cleanupFailure])
    (by simp [fields])

theorem decode_record (h : Record e.fields v) (d : Dialect) : decode d v = some e := by
  obtain ⟨get, hget, hfound⟩ := h.read (by simp [fields]) d
  change d.record? 2 v = some get at hget
  have hstartup : orDefault _ Data.int32? (get 0 "startup_failure_code") =
      some e.startupFailure :=
    (hfound 0 _ rfl).orDefault Data.int32? (by rintro _ rfl; exact Data.int32?_ofInt32 _) id
  have hcleanup : orDefault _ Data.int32? (get 1 "cleanup_failure_code") =
      some e.cleanupFailure :=
    (hfound 1 _ rfl).orDefault Data.int32? (by rintro _ rfl; exact Data.int32?_ofInt32 _) id
  simp only [decode, hget, hstartup, hcleanup, bind, Option.bind]
  rfl

end ExitCodes

namespace Settings
variable {s : Settings} {v : Data}

def fields (s : Settings) : List Field :=
  [⟨"observability", Record s.observability.fields, s.observability = {}⟩,
    ⟨"registry", Record s.registry.fields, s.registry = {}⟩,
    ⟨"exit", Record s.exit.fields, s.exit = {}⟩]

/-- The data stand for these settings: each of the four records is a table or a list that holds
every value that is not the default. -/
def WrittenAs (s : Settings) (v : Data) : Prop := Record s.fields v

theorem encode_written (s : Settings) : s.WrittenAs s.encode :=
  Record.whole (s.fields.zip [s.observability.encode, s.registry.encode, s.exit.encode]) (by
    simp [fields, Observability.encode_record, HookRules.encode_record, ExitCodes.encode_record])

theorem decode_written (h : s.WrittenAs v) (d : Dialect) : decode d v = some s := by
  obtain ⟨get, hget, hfound⟩ := Record.read h (by simp [fields]) d
  change d.record? 3 v = some get at hget
  have hobservability : orDefault {} (Observability.decode d) (get 0 "observability") =
      some s.observability :=
    (hfound 0 _ rfl).orDefault _ (fun _ hv => Observability.decode_record hv d) id
  have hregistry : orDefault {} (HookRules.decode d) (get 1 "registry") = some s.registry :=
    (hfound 1 _ rfl).orDefault _ (fun _ hv => HookRules.decode_record hv d) id
  have hexit : orDefault {} (ExitCodes.decode d) (get 2 "exit") = some s.exit :=
    (hfound 2 _ rfl).orDefault _ (fun _ hv => ExitCodes.decode_record hv d) id
  simp only [decode, hget, hobservability, hregistry, hexit, bind, Option.bind]
  rfl

/-- What is parsed has passed the check. -/
theorem check_of_parse {text : String} (h : parse text = .ok s) : s.check = .ok s := by
  obtain ⟨_, hkept⟩ := parse_eq_ok.mp h
  exact check_eq_ok.mpr ⟨rfl, hkept⟩

theorem check_of_decode {d : Dialect} (h : (decode d v).map check = some (.ok s)) :
    s.check = .ok s := by
  obtain ⟨a, _, hchecked⟩ := Option.map_eq_some_iff.mp h
  obtain ⟨rfl, _⟩ := check_eq_ok.mp hchecked
  exact hchecked

theorem parse_written {text : String} (hread : Toml.read text.toList = some v)
    (h : s.WrittenAs v) (hcheck : s.check = .ok s) : parse text = .ok s := by
  obtain ⟨_, hkept⟩ := check_eq_ok.mp hcheck
  exact parse_eq_ok.mpr ⟨⟨v, hread, decode_written h .toml⟩, hkept⟩

/-- Settings are read from whatever stands for them, in either notation: what they are written as,
without some or all of the defaults, in another order, with keys that nobody knows, or with lists
for some of the records. So settings that a parse or a check has let pass are let pass again. -/
theorem written_reads (s : Settings) :
    s.WrittenAs s.encode ∧
      (∀ d v, s.WrittenAs v → decode d v = some s) ∧
      ((∃ text, parse text = .ok s) ∨ (∃ d v, (decode d v).map check = some (.ok s)) →
        (∀ d v, s.WrittenAs v → (decode d v).map check = some (.ok s)) ∧
          ∀ text v, Toml.read text.toList = some v → s.WrittenAs v → parse text = .ok s) := by
  refine ⟨s.encode_written, fun d v hv => decode_written hv d, ?_⟩
  intro hpassed
  have hcheck : s.check = .ok s := by
    rcases hpassed with ⟨text, hparse⟩ | ⟨d, v, hdecode⟩
    · exact check_of_parse hparse
    · exact check_of_decode hdecode
  refine ⟨?_, fun text v hread hv => parse_written hread hv hcheck⟩
  intro d v hv
  rw [decode_written hv d, Option.map_some, hcheck]

/-- A list with a table, a list and a shorter list in it, one key unknown and one out of order. -/
def mixedData : Data :=
  .list [.table [("color", .null), ("log_level", .text "chatty")], .list [],
    .list [.ofInt32 (-1)]]

def mixedSettings : Settings :=
  { observability := { logLevel := "chatty" }, exit := { startupFailure := -1 } }

theorem mixedData_written : mixedSettings.WrittenAs mixedData := by
  have hobservability : Record mixedSettings.observability.fields
      (.table [("color", .null), ("log_level", .text "chatty")]) :=
    @Record.byName _ ((mixedSettings.observability.fields.take 1).zip [.text "chatty"])
      (mixedSettings.observability.fields.drop 1) [("color", .null)] _ (List.Perm.refl _)
      (by simp [Observability.fields, mixedSettings]) (by simp [Observability.fields, mixedSettings])
      (by simp [Observability.fields]) (List.Perm.swap _ _ _)
  have hregistry : Record mixedSettings.registry.fields (.list []) :=
    @Record.byPlace _ [] mixedSettings.registry.fields rfl (by simp)
      (by simp [HookRules.fields, mixedSettings])
  have hexit : Record mixedSettings.exit.fields (.list [.ofInt32 (-1)]) :=
    @Record.byPlace _ ((mixedSettings.exit.fields.take 1).zip [.ofInt32 (-1)])
      (mixedSettings.exit.fields.drop 1) rfl (by simp [ExitCodes.fields, mixedSettings])
      (by simp [ExitCodes.fields, mixedSettings])
  exact @Record.byPlace _ (mixedSettings.fields.zip [_, _, _]) [] rfl
    (by simp [fields, hobservability, hregistry, hexit]) (by simp)

theorem written_reads_mixed :
    decode .json mixedData = some mixedSettings ∧
      (decode .toml ({} : Settings).encode).map check = some (.ok {}) := by
  obtain ⟨_, hread, _⟩ := written_reads mixedSettings
  obtain ⟨hwritten, _, hagain⟩ := written_reads {}
  have hempty : (decode .json (.table [])).map check = some (.ok {}) := congrArg some check_default
  exact ⟨hread .json _ mixedData_written, (hagain (Or.inr ⟨_, _, hempty⟩)).1 .toml _ hwritten⟩

end Settings

end Bookend
