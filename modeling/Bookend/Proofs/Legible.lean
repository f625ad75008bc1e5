import Bookend.Launch.Report
import Bookend.Text.Digits
import Mathlib.Data.List.Basic

namespace Bookend

/-- Wherever a text that `write` made of `a` stands before something that `ends` allows, it can be
told what it was made of and where it stops. -/
def Legible (ends : List Char → Prop) (write : α → List Char) (a : α) : Prop :=
  ∀ ⦃b : α⦄ ⦃r t : List Char⦄, ends r → ends t → write a ++ r = write b ++ t → a = b ∧ r = t

namespace Legible
variable {α β : Type} {ends : List Char → Prop} {write : α → List Char} {a : α}

def anything (_ : List Char) : Prop := True

theorem behind (opening : List Char) (h : Legible ends write a) :
    Legible ends (fun b => opening ++ write b) a := by
  intro b r t hr ht hsame
  simp only [List.append_assoc, List.append_cancel_left_eq] at hsame
  exact h hr ht hsame

theorem pair {rest : β → List Char} {b : β} (h : Legible anything write a)
    (h' : Legible ends rest b) :
    Legible ends (fun p : α × β => write p.1 ++ rest p.2) (a, b) := by
  rintro ⟨a', b'⟩ r t hr ht hsame
  simp only [List.append_assoc] at hsame
  obtain ⟨rfl, hrest⟩ := h trivial trivial hsame
  obtain ⟨rfl, htail⟩ := h' hr ht hrest
  exact ⟨rfl, htail⟩

/-- Of texts in a row it can be told how many they are if the row is closed by a character that
none of them begins with. -/
theorem row {stop : Char} {as bs : List α} {r t : List Char}
    (h : ∀ a ∈ as, Legible ends write a) (hfirst : ∀ a, ∃ c s, write a = c :: s ∧ c ≠ stop)
    (hends : ∀ (cs : List α) r, ends (cs.flatMap write ++ stop :: r))
    (hsame : as.flatMap write ++ stop :: r = bs.flatMap write ++ stop :: t) :
    as = bs ∧ r = t := by
  -- Neither row can be the longer one, for its next text would begin with the closing character.
  induction as generalizing bs with
  | nil =>
    cases bs with
    | nil => exact ⟨rfl, (List.cons.inj hsame).2⟩
    | cons b bs =>
      obtain ⟨c, s, hb, hc⟩ := hfirst b
      rw [List.flatMap_cons, hb] at hsame
      exact absurd (List.cons.inj hsame).1.symm hc
  | cons a as ih =>
    cases bs with
    | nil =>
      obtain ⟨c, s, ha, hc⟩ := hfirst a
      rw [List.flatMap_cons, ha] at hsame
      exact absurd (List.cons.inj hsame).1 hc
    | cons b bs =>
      simp only [List.flatMap_cons, List.append_assoc] at hsame
      obtain ⟨rfl, hrest⟩ := h a List.mem_cons_self (hends as r) (hends bs t) hsame
      obtain ⟨rfl, htail⟩ := ih (fun b hb => h b (List.mem_cons_of_mem _ hb)) hrest
      exact ⟨rfl, htail⟩

theorem injective (h : ∀ a, Legible ends write a) (hnil : ends []) :
    Function.Injective write := by
  intro a b hsame
  exact (h a hnil hnil (congrArg (· ++ []) hsame)).1

end Legible

namespace Json

/-- The character that stands in front, escaped or not, and what comes behind it. Reading an escape
back takes a case for each form; to set two of them side by side would take one for each pair. -/
def unescape : List Char → Option (Char × List Char)
  | '\\' :: 'u' :: _ :: _ :: h :: l :: r => some (Char.ofNat (Text.valueOf 16 [h, l]), r)
  | '\\' :: 'n' :: r => some ('\n', r)
  | '\\' :: 'r' :: r => some ('\r', r)
  | '\\' :: 't' :: r => some ('\t', r)
  | '\\' :: 'b' :: r => some ('\x08', r)
  | '\\' :: 'f' :: r => some ('\x0c', r)
  | '\\' :: c :: r => some (c, r)
  | c :: r => some (c, r)
  | [] => none

/-- What is escaped by a backslash and one more character. -/
def shorthands : List Char := ['"', '\\', '\n', '\r', '\t', '\x08', '\x0c']

theorem escape_of_not_mem {c : Char} (hc : c ∉ shorthands) : escape c =
    if c.toNat < 32 then
      ['\\', 'u', '0', '0', hexDigit (c.toNat / 16), hexDigit (c.toNat % 16)]
    else [c] := by
  simp only [shorthands, List.mem_cons, List.not_mem_nil, or_false, not_or] at hc
  simp only [escape, hc, if_false]

theorem digitValue?_hexDigit : ∀ n < 16, Text.digitValue? (hexDigit n) = some n := by
  decide

theorem valueOf_hexDigits {n : Nat} (hn : n < 256) :
    Text.valueOf 16 [hexDigit (n / 16), hexDigit (n % 16)] = n := by
  have hhigh := digitValue?_hexDigit (n / 16) (by omega)
  have hlow := digitValue?_hexDigit (n % 16) (by omega)
  simp only [Text.valueOf, List.foldl_cons, List.foldl_nil, hhigh, hlow, Option.getD_some]
  omega

theorem unescape_escape (c : Char) (r : List Char) : unescape (escape c ++ r) = some (c, r) := by
  by_cases hc : c ∈ shorthands
  · simp only [shorthands, List.mem_cons, List.not_mem_nil, or_false] at hc
    rcases hc with rfl | rfl | rfl | rfl | rfl | rfl | rfl <;> rfl
  rw [escape_of_not_mem hc]
  split
  · rename_i hcontrol
    have hvalue := valueOf_hexDigits (n := c.toNat) (by omega)
    simp only [List.cons_append, List.nil_append, unescape, hvalue, Char.ofNat_toNat]
  · have hplain : c ≠ '\\' := by
      rintro rfl
      exact hc (by decide)
    simp [unescape, hplain]

theorem escape_legible (c : Char) : Legible Legible.anything escape c := by
  intro d r t _ _ hsame
  have hread := unescape_escape c r
  rw [hsame, unescape_escape, Option.some.injEq, Prod.mk.injEq] at hread
  exact ⟨hread.1.symm, hread.2.symm⟩

/-- Nothing inside quotes could be taken for the closing one. -/
theorem escape_first (c : Char) : ∃ d s, escape c = d :: s ∧ d ≠ '"' := by
  by_cases hc : c ∈ shorthands
  · simp only [shorthands, List.mem_cons, List.not_mem_nil, or_false] at hc
    rcases hc with rfl | rfl | rfl | rfl | rfl | rfl | rfl <;>
      exact ⟨'\\', _, rfl, by decide⟩
  rw [escape_of_not_mem hc]
  split
  · exact ⟨'\\', _, rfl, by decide⟩
  · refine ⟨c, [], rfl, ?_⟩
    rintro rfl
    exact hc (by decide)

theorem quoted_legible (s : String) : Legible Legible.anything quoted s := by
  intro u r t _ _ hsame
  simp only [quoted, List.cons_append, List.append_assoc, List.nil_append, List.cons.injEq,
    true_and] at hsame
  obtain ⟨hchars, hrest⟩ :=
    Legible.row (fun c _ => escape_legible c) escape_first (fun _ _ => trivial) hsame
  exact ⟨String.toList_inj.mp hchars, hrest⟩

/-- No digit comes next. -/
def Ends (r : List Char) : Prop := ∀ c ∈ r.head?, c.isDigit = false

theorem digits_legible (n : Nat) : Legible Ends (Nat.toDigits 10) n := by
  -- What is taken while digits come is the number and no more.
  have htaken {k : Nat} {r : List Char} (hr : Ends r) :
      (Nat.toDigits 10 k ++ r).takeWhile Char.isDigit = Nat.toDigits 10 k := by
    have hdigits : ∀ c ∈ Nat.toDigits 10 k, c.isDigit = true :=
      fun c hc => Nat.isDigit_of_mem_toDigits (by decide) (by decide) hc
    have hrest : r.takeWhile Char.isDigit = [] := by
      cases r with
      | nil => rfl
      | cons c r => simp [hr c rfl]
    rw [List.takeWhile_append_of_pos hdigits, hrest, List.append_nil]
  intro m r t hr ht hsame
  have hdigits : Nat.toDigits 10 n = Nat.toDigits 10 m := by
    rw [← htaken hr, hsame, htaken ht]
  have hvalue : n = m := by
    rw [← Nat.ofDigitChars_ten_toDigits (n := n), hdigits, Nat.ofDigitChars_ten_toDigits]
  subst hvalue
  exact ⟨rfl, List.append_cancel_left hsame⟩

theorem digits_first (n : Nat) : ∃ c s, Nat.toDigits 10 n = c :: s ∧ c.isDigit = true := by
  cases hdigits : Nat.toDigits 10 n with
  | nil => exact absurd hdigits Nat.toDigits_ne_nil
  | cons c s =>
    have hc : c ∈ Nat.toDigits 10 n := hdigits ▸ List.mem_cons_self
    exact ⟨c, s, rfl, Nat.isDigit_of_mem_toDigits (by decide) (by decide) hc⟩

theorem digits_ne_dash (n : Nat) (r t : List Char) : Nat.toDigits 10 n ++ r ≠ '-' :: t := by
  obtain ⟨c, s, hn, hc⟩ := digits_first n
  rw [hn]
  intro hsame
  have hdash : c = '-' := (List.cons.inj hsame).1
  rw [hdash] at hc
  exact absurd hc (by decide)

theorem number_ofNat (n : Nat) : number (.ofNat n) = Nat.toDigits 10 n := by
  simp [number, Int.repr_eq_if]

theorem number_negSucc (n : Nat) : number (.negSucc n) = '-' :: Nat.toDigits 10 (n + 1) := by
  simp [number, Int.repr_eq_if]

theorem number_legible (n : Int) : Legible Ends number n := by
  intro m r t hr ht hsame
  cases n with
  | ofNat k =>
    rw [number_ofNat] at hsame
    cases m with
    | ofNat l =>
      rw [number_ofNat] at hsame
      obtain ⟨rfl, hrest⟩ := digits_legible k hr ht hsame
      exact ⟨rfl, hrest⟩
    | negSucc l =>
      rw [number_negSucc] at hsame
      exact absurd hsame (digits_ne_dash k r _)
  | negSucc k =>
    rw [number_negSucc] at hsame
    cases m with
    | ofNat l =>
      rw [number_ofNat] at hsame
      exact absurd hsame.symm (digits_ne_dash l t _)
    | negSucc l =>
      rw [number_negSucc] at hsame
      obtain ⟨hsucc, hrest⟩ := digits_legible (k + 1) hr ht (List.cons.inj hsame).2
      exact ⟨congrArg Int.negSucc (Nat.succ.inj hsucc), hrest⟩

/-- An item that is not the first one. -/
def further (depth : Nat) (write : α → List Char) (a : α) : List Char :=
  ',' :: newline depth ++ write a

/-- What stands behind an opening bracket. -/
def block (depth : Nat) (closing : Char) (write : α → List Char) : List α → List Char
  | [] => [closing]
  | a :: as =>
    newline (depth + 1) ++ write a ++ as.flatMap (further (depth + 1) write) ++ newline depth ++
      [closing]

def member (depth : Nat) (m : String × Json) : List Char :=
  quoted m.1 ++ ([':', ' '] ++ layout depth m.2)

theorem layoutItems_eq (depth : Nat) (vs : List Json) :
    layoutItems depth vs = vs.flatMap (further depth (layout depth)) := by
  induction vs with
  | nil => rw [layoutItems]; rfl
  | cons v vs ih => rw [layoutItems, ih]; rfl

theorem layoutMembers_eq (depth : Nat) (ms : List (String × Json)) :
    layoutMembers depth ms = ms.flatMap (further depth (member depth)) := by
  induction ms with
  | nil => rw [layoutMembers]; rfl
  | cons m ms ih => rw [layoutMembers, ih]; simp [further, member]

theorem layout_arr (depth : Nat) (vs : List Json) :
    layout depth (arr vs) = '[' :: block depth ']' (layout (depth + 1)) vs := by
  cases vs with
  | nil => rw [layout]; rfl
  | cons v vs => simp [layout, layoutItems_eq, block]

theorem layout_obj (depth : Nat) (ms : List (String × Json)) :
    layout depth (obj ms) = '\x7b' :: block depth '\x7d' (member (depth + 1)) ms := by
  cases ms with
  | nil => rw [layout]; rfl
  | cons m ms => simp [layout, layoutMembers_eq, block, member]

section
variable {α : Type} {depth : Nat} {closing : Char} {write : α → List Char} {as : List α}

/-- Behind an item stands a comma or a line end. -/
theorem ends_further (as : List α) (r : List Char) :
    Ends (as.flatMap (further depth write) ++ '\n' :: r) := by
  cases as <;> simp [Ends, further]

theorem block_legible (hclosing : closing ≠ '\n') (h : ∀ a ∈ as, Legible Ends write a) :
    Legible Legible.anything (block depth closing write) as := by
  intro bs r t _ _ hsame
  cases as with
  | nil =>
    cases bs with
    | nil => exact ⟨rfl, (List.cons.inj hsame).2⟩
    | cons b bs => exact absurd (List.cons.inj hsame).1 hclosing
  | cons a as =>
    cases bs with
    | nil => exact absurd (List.cons.inj hsame).1.symm hclosing
    | cons b bs =>
      simp only [block, newline, List.append_assoc, List.cons_append, List.nil_append,
        List.cons.injEq, List.append_cancel_left_eq, true_and] at hsame
      obtain ⟨rfl, hrest⟩ :=
        h a List.mem_cons_self (ends_further as _) (ends_further bs _) hsame
      have hfurther : ∀ b ∈ as, Legible Ends (further (depth + 1) write) b := fun b hb =>
        (h b (List.mem_cons_of_mem _ hb)).behind (',' :: newline (depth + 1))
      obtain ⟨rfl, htail⟩ :=
        Legible.row hfurther (fun b => ⟨',', _, rfl, by decide⟩) ends_further hrest
      exact ⟨rfl, (List.cons.inj (List.append_cancel_left htail)).2⟩

end

/-- The character that a value opens with; a zero stands for that of any number. -/
def opening : Json → Char
  | null => 'n'
  | bool true => 't'
  | bool false => 'f'
  | num _ => '0'
  | str _ => '"'
  | arr _ => '['
  | obj _ => '\x7b'

/-- Two values of the same kind; of the kinds that carry nothing, two equal ones. -/
inductive Alike : Json → Json → Prop
  | null : Alike null null
  | bool (b : Bool) : Alike (bool b) (bool b)
  | num (m n : Int) : Alike (num m) (num n)
  | str (s u : String) : Alike (str s) (str u)
  | arr (vs ws : List Json) : Alike (arr vs) (arr ws)
  | obj (ms ns : List (String × Json)) : Alike (obj ms) (obj ns)

theorem alike_of_opening {v w : Json} (h : v.opening = w.opening) : Alike v w := by
  rcases v with _ | (_ | _) | _ | _ | _ | _ <;> rcases w with _ | (_ | _) | _ | _ | _ | _ <;>
    first | constructor | simp [opening] at h

theorem layout_first (depth : Nat) (v : Json) :
    ∃ c s, layout depth v = c :: s ∧ (if c = '-' ∨ c.isDigit then '0' else c) = v.opening := by
  cases v with
  | null => exact ⟨_, _, by rw [layout], rfl⟩
  | bool b => cases b <;> exact ⟨_, _, by rw [layout], rfl⟩
  | num n =>
    rw [layout]
    cases n with
    | ofNat k =>
      obtain ⟨c, s, hk, hc⟩ := digits_first k
      exact ⟨c, s, by rw [number_ofNat, hk], if_pos (Or.inr hc)⟩
    | negSucc k => exact ⟨_, _, number_negSucc k, rfl⟩
  | str s => exact ⟨_, _, by rw [layout, quoted], rfl⟩
  | arr vs => exact ⟨_, _, layout_arr depth vs, rfl⟩
  | obj ms => exact ⟨_, _, layout_obj depth ms, rfl⟩

theorem alike_of_layout {depth : Nat} {v w : Json} {r t : List Char}
    (h : layout depth v ++ r = layout depth w ++ t) : Alike v w := by
  obtain ⟨c, s, hv, hc⟩ := layout_first depth v
  obtain ⟨d, u, hw, hd⟩ := layout_first depth w
  rw [hv, hw] at h
  apply alike_of_opening
  rw [← hc, ← hd, (List.cons.inj h).1]

/-- The values inside a value. -/
def parts : Json → List Json
  | arr vs => vs
  | obj ms => ms.map Prod.snd
  | _ => []

theorem sizeOf_lt_of_mem_parts {u v : Json} (h : u ∈ v.parts) : sizeOf u < sizeOf v := by
  cases v with
  | arr vs =>
    have hlt : sizeOf u < sizeOf vs := List.sizeOf_lt_of_mem h
    simp only [arr.sizeOf_spec]
    omega
  | obj ms =>
    obtain ⟨⟨k, _⟩, hm, rfl⟩ := List.mem_map.mp h
    have hlt := List.sizeOf_lt_of_mem hm
    simp only [obj.sizeOf_spec, Prod.mk.sizeOf_spec] at hlt ⊢
    omega
  | _ => cases h

theorem layout_legible_of_parts {v : Json}
    (h : ∀ u ∈ v.parts, ∀ depth, Legible Ends (layout depth) u) (depth : Nat) :
    Legible Ends (layout depth) v := by
  intro w r t hr ht hsame
  -- Texts that go on in the same way open alike, so there is one case for each kind.
  cases alike_of_layout hsame with
  | null => exact ⟨rfl, List.append_cancel_left hsame⟩
  | bool b => exact ⟨rfl, List.append_cancel_left hsame⟩
  | num m n =>
    obtain ⟨rfl, hrest⟩ := number_legible m hr ht (by simpa only [layout] using hsame)
    exact ⟨rfl, hrest⟩
  | str s u =>
    obtain ⟨rfl, hrest⟩ := quoted_legible s trivial trivial (by simpa only [layout] using hsame)
    exact ⟨rfl, hrest⟩
  | arr vs ws =>
    have hitems : ∀ v ∈ vs, Legible Ends (layout (depth + 1)) v := fun v hv => h v hv (depth + 1)
    rw [layout_arr, layout_arr] at hsame
    obtain ⟨rfl, hrest⟩ :=
      block_legible (by decide) hitems trivial trivial (List.cons.inj hsame).2
    exact ⟨rfl, hrest⟩
  | obj ms ns =>
    have hmembers : ∀ m ∈ ms, Legible Ends (member (depth + 1)) m := fun m hm =>
      (quoted_legible m.1).pair ((h m.2 (List.mem_map_of_mem hm) (depth + 1)).behind [':', ' '])
    rw [layout_obj, layout_obj] at hsame
    obtain ⟨rfl, hrest⟩ :=
      block_legible (by decide) hmembers trivial trivial (List.cons.inj hsame).2
    exact ⟨rfl, hrest⟩

/-- Values stop by themselves; only a number needs that no digit comes next. -/
theorem layout_legible (v : Json) (depth : Nat) : Legible Ends (layout depth) v :=
  layout_legible_of_parts (fun u _ => layout_legible u) depth
termination_by sizeOf v
decreasing_by exact sizeOf_lt_of_mem_parts ‹_›

/-- Nothing else is printed as the same text. -/
theorem pretty_injective : Function.Injective pretty := by
  intro v w hsame
  have hnil : Ends [] := by simp [Ends]
  exact Legible.injective (fun u => layout_legible u 0) hnil (String.ofList_injective hsame)

theorem ofOption_str_injective : Function.Injective (ofOption str) := by
  intro a b hsame
  cases a <;> cases b <;> simp_all [ofOption]

end Json

theorem Phase.text_injective : Function.Injective Phase.text := by
  intro p q hsame
  cases p <;> cases q <;> first | rfl | exact absurd hsame (by decide)

theorem Failure.toJson_injective : Function.Injective Failure.toJson := by
  rintro ⟨handle, name, module, phase, message⟩ ⟨handle', name', module', phase', message'⟩ hsame
  simp only [toJson, Json.obj.injEq, List.cons.injEq, Prod.mk.injEq, Json.num.injEq,
    Json.str.injEq, Int.natCast_inj, true_and, and_true] at hsame
  obtain ⟨hhandle, hname, hmodule, hphase, hmessage⟩ := hsame
  rw [hhandle, hname, Json.ofOption_str_injective hmodule, Phase.text_injective hphase, hmessage]

namespace PassReport

theorem handles_injective : Function.Injective handles := by
  intro hs ks hsame
  have hnum : Function.Injective fun h : Handle => Json.num (Int.ofNat h) := by
    intro h k he
    exact Int.ofNat.inj (Json.num.inj he)
  exact List.map_injective_iff.mpr hnum (Json.arr.inj hsame)

theorem toJson_injective : Function.Injective toJson := by
  rintro ⟨phase, invoked, completed, skipped, failures⟩
    ⟨phase', invoked', completed', skipped', failures'⟩ hsame
  simp only [toJson, Json.obj.injEq, List.cons.injEq, Prod.mk.injEq, Json.str.injEq,
    Json.arr.injEq, true_and, and_true] at hsame
  obtain ⟨hphase, hinvoked, hcompleted, hskipped, hfailures⟩ := hsame
  rw [Phase.text_injective hphase, handles_injective hinvoked, handles_injective hcompleted,
    handles_injective hskipped, List.map_injective_iff.mpr Failure.toJson_injective hfailures]

end PassReport

namespace LaunchReport

theorem outcome_eq_of_toJson {a b : LaunchReport} (h : a.toJson = b.toJson) :
    a.outcome = b.outcome := by
  obtain ⟨outcome, codes⟩ := a
  obtain ⟨outcome', codes'⟩ := b
  cases outcome with
  | completed startup status cleanup =>
    cases outcome' with
    | completed startup' status' cleanup' =>
      simp only [toJson, Json.obj.injEq, List.cons.injEq, Prod.mk.injEq, Json.num.injEq,
        Int32.toInt_inj, true_and, and_true] at h
      obtain ⟨hstartup, hstatus, hcleanup⟩ := h
      rw [PassReport.toJson_injective hstartup, hstatus, PassReport.toJson_injective hcleanup]
    | startupAborted failure startup' unwind => simp [toJson] at h
  | startupAborted failure startup unwind =>
    cases outcome' with
    | completed startup' status cleanup => simp [toJson] at h
    | startupAborted failure' startup' unwind' =>
      simp only [toJson, Json.obj.injEq, List.cons.injEq, Prod.mk.injEq, true_and,
        and_true] at h
      obtain ⟨hfailure, hstartup, hunwind⟩ := h
      rw [Failure.toJson_injective hfailure, PassReport.toJson_injective hstartup,
        PassReport.toJson_injective hunwind]

/-- The exit codes are no part of the printed report. -/
theorem toJson_of_outcome {a b : LaunchReport} (h : a.outcome = b.outcome) :
    a.toJson = b.toJson := by
  simp only [toJson, h]

/-- Two launches are printed alike only if they ended alike: whatever names and messages hold,
none of it can be taken for another part of the report. -/
theorem pretty_eq_iff (a b : LaunchReport) : a.pretty = b.pretty ↔ a.outcome = b.outcome := by
  constructor
  · intro hsame
    exact outcome_eq_of_toJson (Json.pretty_injective hsame)
  · intro houtcome
    exact congrArg Json.pretty (toJson_of_outcome houtcome)

/-- A missing module is not printed as one that is called so. -/
example : Json.pretty (Json.ofOption .str none) ≠ Json.pretty (Json.ofOption .str (some "null")) := by
  decide

end LaunchReport
end Bookend
