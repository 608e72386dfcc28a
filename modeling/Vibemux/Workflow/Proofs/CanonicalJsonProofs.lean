import Vibemux.Lib.JsonParser
import Vibemux.Workflow.CanonicalJson

/-!
# Canonical JSON is a faithful encoding

The writer succeeds on exactly the values of bounded depth whose numbers are integers of 64 bits, and
a JSON parser gives the value back. Every text but a number's closes itself, and what follows a number
inside a document is a comma or a bracket.
-/

namespace Vibemux

open Checked Json SortWith List

variable {bytes : ByteArray} {depth : Nat} {fields : List (String × Json)} {items : List Json}
  {results : List (Except CanonicalError (List Char))} {text : List Char} {texts : List (List Char)}
  {value : Json}

/-! ## Success -/

/-- A number is an integer of `i64` or `u64`. -/
def IsMachineNumber : Json → Prop
  | .int value => (-2 ^ 63 ≤ value ∧ value < 2 ^ 63) ∨ (0 ≤ value ∧ value < 2 ^ 64)
  | .float _ => False
  | _ => True

theorem firstError_eq_ok : firstError results = .ok texts ↔ results = texts.map .ok := by
  induction results generalizing texts with
  | nil => cases texts <;> simp [firstError]
  | cons result rest ih =>
    simp only [firstError, eq_ok, ih]
    constructor
    · rintro ⟨text, rfl, _, rfl, rfl⟩
      rfl
    · intro h
      cases texts with
      | nil => cases h
      | cons text texts =>
        obtain ⟨rfl, rfl⟩ := cons.inj h
        exact ⟨text, rfl, texts, rfl, rfl⟩

theorem exists_firstError :
    (∃ texts, firstError results = .ok texts) ↔ ∀ result ∈ results, ∃ text, result = .ok text := by
  induction results with
  | nil => simp [firstError]
  | cons result rest ih =>
    simp only [forall_mem_cons, ← ih, firstError_eq_ok]
    constructor
    · rintro ⟨texts, h⟩
      cases texts with
      | nil => cases h
      | cons text texts =>
        obtain ⟨rfl, rfl⟩ := cons.inj h
        exact ⟨⟨text, rfl⟩, texts, rfl⟩
    · rintro ⟨⟨text, rfl⟩, texts, rfl⟩
      exact ⟨text :: texts, rfl⟩

theorem writeMember_eq_ok {member : String × Except CanonicalError (List Char)} :
    writeMember member = .ok text ↔
      ∃ value, member.2 = .ok value ∧ text = writeString member.1 ++ ':' :: value := by
  simp only [writeMember, eq_ok]
  exact exists_congr fun value => and_congr_right fun _ => eq_comm

theorem writeNumber_int {value : Int} : writeNumber (.int value) = .ok text ↔
    IsMachineNumber (.int value) ∧ text = writeInteger value := by
  unfold writeNumber asI64 asU64 IsMachineNumber
  dsimp only
  by_cases hi : -2 ^ 63 ≤ value ∧ value < 2 ^ 63
  · rw [if_pos hi]
    exact ⟨fun h => ⟨.inl hi, (Except.ok.inj h).symm⟩, fun h => congrArg Except.ok h.2.symm⟩
  · rw [if_neg hi]
    by_cases hu : 0 ≤ value ∧ value < 2 ^ 64
    · have hcast : ((value.toNat : Nat) : Int) = value := Int.toNat_of_nonneg hu.1
      rw [if_pos hu]
      simp only [hcast]
      exact ⟨fun h => ⟨.inr hu, (Except.ok.inj h).symm⟩, fun h => congrArg Except.ok h.2.symm⟩
    · rw [if_neg hu]
      exact ⟨nofun, fun h => absurd h.1 (not_or.2 ⟨hi, hu⟩)⟩

theorem writeNumber_float (number : String) :
    writeNumber (.float number) ≠ .ok text := nofun

theorem writeValue_too_deep (h : maxCanonicalDepth < depth) (value : Json) :
    writeValue depth value = .error .tooDeep := by
  cases value <;> simp [writeValue, h]

theorem depth_le_of_writeValue (h : writeValue depth value = .ok text) :
    depth ≤ maxCanonicalDepth := by
  by_contra hdeep
  rw [writeValue_too_deep (Nat.not_le.1 hdeep)] at h
  cases h

theorem guarded_eq_ok {result : Except CanonicalError (List (List Char))} {f : List (List Char) → List Char} :
    (if maxCanonicalDepth < depth then .error .tooDeep else do return f (← result)) = .ok text ↔
      depth ≤ maxCanonicalDepth ∧ ∃ texts, result = .ok texts ∧ text = f texts := by
  split_ifs with h
  · exact ⟨nofun, fun hok => absurd h (Nat.not_lt.2 hok.1)⟩
  · simp only [eq_ok, Nat.not_lt.1 h, true_and]
    exact exists_congr fun texts => and_congr_right fun _ => eq_comm

theorem writeValue_arr :
    writeValue depth (.arr items) = .ok text ↔ depth ≤ maxCanonicalDepth ∧
      ∃ texts, firstError (writeItems (depth + 1) items) = .ok texts ∧
        text = '[' :: commaSeparated texts ++ [']'] := by
  rw [writeValue]
  exact guarded_eq_ok

/-- The members as the writer lists them. -/
def sortedMembers (depth : Nat) (fields : List (String × Json)) :
    List (String × Except CanonicalError (List Char)) :=
  sortWith (fun a b => compareNames a.1 b.1) (writeMembers depth fields)

theorem writeValue_obj :
    writeValue depth (.obj fields) = .ok text ↔ depth ≤ maxCanonicalDepth ∧
      ∃ texts, firstError ((sortedMembers (depth + 1) fields).map writeMember) = .ok texts ∧
        text = '{' :: commaSeparated texts ++ ['}'] := by
  rw [writeValue]
  exact guarded_eq_ok

theorem exists_writeMember :
    (∃ texts, firstError ((sortedMembers depth fields).map writeMember) = .ok texts) ↔
      ∀ member ∈ writeMembers depth fields, ∃ text, member.2 = .ok text := by
  have hperm : (sortedMembers depth fields).Perm (writeMembers depth fields) := perm_sortWith _
  simp only [exists_firstError, forall_mem_map, hperm.mem_iff, writeMember_eq_ok]
  refine forall₂_congr fun member _ => ?_
  exact ⟨fun ⟨_, value, h, _⟩ => ⟨value, h⟩, fun ⟨value, h⟩ => ⟨_, value, h, rfl⟩⟩

/-- A value at a depth that the writer accepts. -/
def Accepted (entry : Nat × Json) : Prop := entry.1 ≤ maxCanonicalDepth ∧ IsMachineNumber entry.2

/-- The writer of a value that contains no other. -/
theorem exists_writeValue_leaf {result : Except CanonicalError (List Char)}
    (hresult : depth ≤ maxCanonicalDepth → writeValue depth value = result)
    (hnumber : (∃ text, result = .ok text) ↔ IsMachineNumber value) :
    (∃ text, writeValue depth value = .ok text) ↔ ∀ entry ∈ [(depth, value)], Accepted entry := by
  rw [forall_mem_singleton]
  by_cases h : depth ≤ maxCanonicalDepth
  · rw [hresult h, hnumber]
    exact (and_iff_right h).symm
  · rw [writeValue_too_deep (Nat.not_le.1 h)]
    exact ⟨nofun, fun hentry => absurd hentry.1 h⟩

/-- The writer of a value that contains others, whose texts are the part that can fail. -/
theorem exists_writeValue_node {written : List (List Char) → Prop}
    {join : List (List Char) → List Char} {within : List (Nat × Json)}
    (hwrite : ∀ text, writeValue depth value = .ok text ↔ depth ≤ maxCanonicalDepth ∧ ∃ texts, written texts ∧ text = join texts)
    (hnumber : IsMachineNumber value)
    (hwithin : (∃ texts, written texts) ↔ ∀ entry ∈ within, Accepted entry) :
    (∃ text, writeValue depth value = .ok text) ↔
      ∀ entry ∈ (depth, value) :: within, Accepted entry := by
  simp only [hwrite, forall_mem_cons, ← hwithin]
  constructor
  · rintro ⟨_, hdepth, texts, htexts, -⟩
    exact ⟨⟨hdepth, hnumber⟩, texts, htexts⟩
  · rintro ⟨⟨hdepth, -⟩, texts, htexts⟩
    exact ⟨_, hdepth, texts, htexts, rfl⟩

mutual

theorem exists_writeValue (depth : Nat) (value : Json) :
    (∃ text, writeValue depth value = .ok text) ↔ ∀ entry ∈ value.nested depth, Accepted entry := by
  cases value with
  | null | bool value | str text =>
    exact exists_writeValue_leaf (fun h => by rw [writeValue, if_neg (Nat.not_lt.2 h)])
      (iff_of_true ⟨_, rfl⟩ trivial)
  | int number =>
    refine exists_writeValue_leaf (fun h => by rw [writeValue, if_neg (Nat.not_lt.2 h)]) ?_
    simp only [writeNumber_int, exists_and_left, exists_eq, and_true]
  | float number =>
    exact exists_writeValue_leaf (fun h => by rw [writeValue, if_neg (Nat.not_lt.2 h)])
      (iff_of_false (fun ⟨_, h⟩ => writeNumber_float number h) id)
  | arr items =>
    exact exists_writeValue_node (fun _ => writeValue_arr) trivial
      (exists_firstError.trans (exists_writeItems (depth + 1) items))
  | obj fields =>
    exact exists_writeValue_node (fun _ => writeValue_obj) trivial
      (exists_writeMember.trans (exists_writeMembers (depth + 1) fields))

theorem exists_writeItems (depth : Nat) (items : List Json) :
    (∀ result ∈ writeItems depth items, ∃ text, result = .ok text) ↔
      ∀ entry ∈ nestedItems depth items, Accepted entry := by
  cases items with
  | nil => simp [writeItems, nestedItems]
  | cons item rest =>
    simp only [writeItems, nestedItems, forall_mem_cons, forall_mem_append]
    rw [exists_writeValue depth item, exists_writeItems depth rest]

theorem exists_writeMembers (depth : Nat) (fields : List (String × Json)) :
    (∀ member ∈ writeMembers depth fields, ∃ text, member.2 = .ok text) ↔
      ∀ entry ∈ nestedMembers depth fields, Accepted entry := by
  match fields with
  | [] => simp [writeMembers, nestedMembers]
  | (name, value) :: rest =>
    simp only [writeMembers, nestedMembers, forall_mem_cons, forall_mem_append]
    rw [exists_writeValue depth value, exists_writeMembers depth rest]

end

/-! ## Reading a written value -/

theorem parseChar_writeChar (c : Char) (rest : List Char) :
    parseChar (writeChar c ++ rest) = some (c, rest) := by
  have hhex : ∀ d < 16, hexValue (hexDigit d) = some d := by decide
  unfold writeChar
  split_ifs with h1 h2 h3 h4 h5 h6 h7 h8
  iterate 7 (subst c; rfl)
  · have hhigh := hhex (c.toNat / 16) (by omega)
    have hlow := hhex (c.toNat % 16) (by omega)
    have hzero : hexValue '0' = some 0 := by decide
    have hcode : ((0 * 16 + 0) * 16 + c.toNat / 16) * 16 + c.toNat % 16 = c.toNat := by omega
    simp only [cons_append, nil_append, parseChar, parseUnicode, parseHex, hzero, hhigh, hlow,
      Option.bind_eq_bind, Option.bind_some, Option.pure_def, hcode, if_true]
    rw [if_neg (by omega), if_neg (by omega), Char.ofNat_toNat]
  · simp [parseChar, h2, h8]

/-- An escaped character is not empty and does not look like the closing quote. -/
theorem writeChar_head (c : Char) : ∃ d rest, writeChar c = d :: rest ∧ d ≠ '"' := by
  unfold writeChar
  split_ifs with hquote
  all_goals first
    | exact ⟨'\\', _, rfl, by decide⟩
    | exact ⟨c, _, rfl, hquote⟩

theorem length_le_flatMap_writeChar (body : List Char) :
    body.length ≤ (body.flatMap writeChar).length := by
  induction body with
  | nil => exact Nat.le_refl 0
  | cons c body ih =>
    obtain ⟨d, rest, hwrite, -⟩ := writeChar_head c
    simp only [flatMap_cons, length_append, length_cons, hwrite]
    omega

theorem parseBody_writeChar (body rest : List Char) {fuel : Nat} (hfuel : body.length < fuel) :
    parseBody fuel (body.flatMap writeChar ++ '"' :: rest) = some (body, rest) := by
  induction body generalizing fuel with
  | nil =>
    obtain ⟨fuel, rfl⟩ : ∃ n, fuel = n + 1 := ⟨fuel - 1, by omega⟩
    simp [parseBody]
  | cons c body ih =>
    obtain ⟨fuel, rfl⟩ : ∃ n, fuel = n + 1 := ⟨fuel - 1, by omega⟩
    obtain ⟨d, tail, hwrite, hquote⟩ := writeChar_head c
    have hread := parseChar_writeChar c (body.flatMap writeChar ++ '"' :: rest)
    have hbody := ih (Nat.lt_of_succ_lt_succ hfuel)
    have hhead : (writeChar c ++ (body.flatMap writeChar ++ '"' :: rest)).head? ≠ some '"' := by
      simpa [hwrite] using hquote
    rw [flatMap_cons, append_assoc, parseBody, if_neg hhead, hread]
    simp [hbody]

/-- A string after its opening quote. -/
theorem parseString_writeString (text : String) (rest : List Char) :
    parseString (text.toList.flatMap writeChar ++ '"' :: rest) = some (text, rest) := by
  have hfuel : text.toList.length < (text.toList.flatMap writeChar ++ '"' :: rest).length + 1 := by
    have := length_le_flatMap_writeChar text.toList
    simp only [length_append, length_cons]
    omega
  rw [parseString, parseBody_writeChar _ _ hfuel]
  simp

theorem numberOf_writeInteger {value : Int} (h : IsMachineNumber (.int value)) :
    numberOf (decide (value < 0)) (Nat.toDigits 10 value.natAbs) [] [] = .int value := by
  have hdigits : Nat.ofDigitChars 10 (Nat.toDigits 10 value.natAbs) 0 = value.natAbs :=
    Nat.ofDigitChars_toDigits (by decide) (by decide)
  unfold IsMachineNumber at h
  unfold numberOf
  by_cases hneg : value < 0
  · have hrange : 0 < value.natAbs ∧ value.natAbs ≤ 2 ^ 63 := by omega
    have hvalue : -(value.natAbs : Int) = value := by omega
    rw [decide_eq_true hneg, hdigits]
    dsimp only
    rw [if_neg (by simp), if_pos ⟨rfl, rfl, rfl, hrange⟩, hvalue]
  · have hrange : value.natAbs < 2 ^ 64 := by omega
    have hvalue : (value.natAbs : Int) = value := by omega
    rw [decide_eq_false hneg, hdigits]
    dsimp only
    rw [if_pos ⟨rfl, rfl, rfl, hrange⟩, hvalue]

theorem writeInteger_head (value : Int) :
    ∃ c rest, writeInteger value = c :: rest ∧ (c = '-' ∧ value < 0 ∨ c.isDigit = true) := by
  unfold writeInteger
  split_ifs with hneg
  · exact ⟨'-', _, rfl, .inl ⟨rfl, hneg⟩⟩
  · cases hdigits : Nat.toDigits 10 value.natAbs with
    | nil => exact absurd hdigits Nat.toDigits_ne_nil
    | cons c rest =>
      have hmem : c ∈ Nat.toDigits 10 value.natAbs := by rw [hdigits]; exact mem_cons_self
      exact ⟨c, rest, rfl, .inr (Nat.isDigit_of_mem_toDigits (by decide) (by decide) hmem)⟩

theorem parseNumber_writeInteger {value : Int} (h : IsMachineNumber (.int value)) {rest : List Char}
    (hrest : EndsNumber rest) : parseNumber (writeInteger value ++ rest) = some (.int value, rest) := by
  have hnumber := numberOf_writeInteger h
  unfold writeInteger
  split_ifs with hneg
  · rw [decide_eq_true hneg] at hnumber
    rw [cons_append, parseNumber, parseUnsigned_toDigits true _ hrest, hnumber]
  · rw [decide_eq_false hneg] at hnumber
    obtain ⟨c, tail, hwrite, hc⟩ := writeInteger_head value
    rw [writeInteger, if_neg hneg] at hwrite
    have hminus : c ≠ '-' := by
      rintro rfl
      rcases hc with ⟨-, hc⟩ | hc
      · exact hneg hc
      · exact absurd hc (by decide)
    have hparse : parseNumber (c :: tail ++ rest) = parseUnsigned false (c :: tail ++ rest) := by
      rw [cons_append, parseNumber]
      rintro _ ⟨⟩
      exact hminus rfl
    rw [hwrite, hparse, ← hwrite, parseUnsigned_toDigits false _ hrest, hnumber]

/-- The first character of a written value is no space and closes nothing. -/
theorem writeValue_head (h : writeValue depth value = .ok text) :
    ∃ c rest, text = c :: rest ∧ isSpace c = false ∧ c ≠ ']' := by
  have hdepth := Nat.not_lt.2 (depth_le_of_writeValue h)
  cases value with
  | null =>
    rw [writeValue, if_neg hdepth] at h
    exact ⟨'n', _, (Except.ok.inj h).symm, by decide⟩
  | bool value =>
    rw [writeValue, if_neg hdepth] at h
    cases value
    · exact ⟨'f', _, (Except.ok.inj h).symm, by decide⟩
    · exact ⟨'t', _, (Except.ok.inj h).symm, by decide⟩
  | int number =>
    rw [writeValue, if_neg hdepth, writeNumber_int] at h
    obtain ⟨c, rest, hwrite, hc⟩ := writeInteger_head number
    obtain ⟨hspace, hother⟩ := ne_of_starts_number (hc.imp_left And.left)
    exact ⟨c, rest, h.2.trans hwrite, hspace, hother ']' mem_cons_self⟩
  | float number =>
    rw [writeValue, if_neg hdepth] at h
    exact absurd h (writeNumber_float number)
  | str text =>
    rw [writeValue, if_neg hdepth] at h
    exact ⟨'"', _, (Except.ok.inj h).symm, by decide⟩
  | arr items =>
    obtain ⟨-, texts, -, rfl⟩ := writeValue_arr.1 h
    exact ⟨'[', _, rfl, by decide⟩
  | obj fields =>
    obtain ⟨-, texts, -, rfl⟩ := writeValue_obj.1 h
    exact ⟨'{', _, rfl, by decide⟩

theorem writeItems_eq_cons {item : Json} (h : writeItems depth (item :: items) = texts.map .ok) :
    ∃ text rest, texts = text :: rest ∧ writeValue depth item = .ok text ∧
      writeItems depth items = rest.map .ok := by
  cases texts with
  | nil => cases h
  | cons text rest =>
    obtain ⟨hitem, hitems⟩ := cons.inj h
    exact ⟨text, rest, rfl, hitem, hitems⟩

theorem writeMembers_eq_cons {name : String}
    (h : (writeMembers depth ((name, value) :: fields)).map writeMember = texts.map .ok) :
    ∃ text rest, texts = (writeString name ++ ':' :: text) :: rest ∧
      writeValue depth value = .ok text ∧
      (writeMembers depth fields).map writeMember = rest.map .ok := by
  cases texts with
  | nil => cases h
  | cons first rest =>
    obtain ⟨hmember, hmembers⟩ := cons.inj h
    obtain ⟨text, hvalue, rfl⟩ := writeMember_eq_ok.1 hmember
    exact ⟨text, rest, rfl, hvalue, hmembers⟩

theorem writeMembers_eq_map (depth : Nat) (fields : List (String × Json)) :
    writeMembers depth fields = fields.map fun field => (field.1, writeValue depth field.2) := by
  induction fields with
  | nil => rfl
  | cons field fields ih => rw [writeMembers, map_cons, ih]

/-- A document's members are written in the order in which it lists them. -/
theorem sortedMembers_of_pairwise (h : fields.Pairwise fun a b => compareNames a.1 b.1 = .lt) :
    sortedMembers depth fields = writeMembers depth fields := by
  refine sortWith_eq_self ?_
  rw [writeMembers_eq_map, pairwise_map]
  refine h.imp fun {a b} hlt hgt => ?_
  rw [Std.OrientedCmp.gt_of_lt hlt] at hgt
  cases hgt

/-- The bytes of a map do not depend on the order in which its members are listed. -/
theorem writeValue_obj_perm (depth : Nat) {fields' : List (String × Json)}
    (hnames : (fields.map Prod.fst).Nodup) (h : fields'.Perm fields) :
    writeValue depth (.obj fields') = writeValue depth (.obj fields) := by
  have hperm : (writeMembers (depth + 1) fields').Perm (writeMembers (depth + 1) fields) := by
    rw [writeMembers_eq_map, writeMembers_eq_map]
    exact h.map _
  have hnodup : ((writeMembers (depth + 1) fields).map Prod.fst).Nodup := by
    rwa [writeMembers_eq_map, map_map]
  have hstrict : StrictOn (fun a b => compareNames a.1 b.1) (· ∈ writeMembers (depth + 1) fields) := by
    refine ⟨fun a b _ _ => Std.OrientedCmp.eq_swap, fun a b ha hb heq => ?_, fun a b c _ _ _ => ?_⟩
    · exact inj_on_of_nodup_map hnodup ha hb (Std.LawfulEqCmp.eq_of_compare heq)
    · exact Std.TransCmp.lt_trans
  have hsorted := sortWith_perm hstrict (fun _ ha => ha) hnodup.of_map hperm
  rw [writeValue, writeValue, hsorted]

/-- Two members in either order. -/
theorem writeValue_obj_swapped : writeValue 0 (.obj [("b", .null), ("a", .null)]) =
    writeValue 0 (.obj [("a", .null), ("b", .null)]) :=
  writeValue_obj_perm 0 (by decide) (.swap _ _ _)

theorem commaSeparated_cons_cons (first second : List Char) (texts : List (List Char)) :
    commaSeparated (first :: second :: texts) = first ++ ',' :: commaSeparated (second :: texts) := rfl

/-- A list does not close where its first element starts. -/
theorem expect_commaSeparated {c close : Char} (hspace : isSpace c = false) (hne : c ≠ close)
    (tail : List Char) (texts : List (List Char)) (rest : List Char) :
    expect close (commaSeparated ((c :: tail) :: texts) ++ rest) = none := by
  cases texts with
  | nil => exact expect_of_ne hspace hne _
  | cons second texts => exact expect_of_ne hspace hne _

mutual

theorem parseValue_writeValue (value : Json) {depth fuel : Nat} {text rest : List Char}
    (hordered : value.Ordered) (h : writeValue depth value = .ok text) (hrest : EndsNumber rest)
    (hfuel : text.length ≤ fuel) : parseValue fuel (text ++ rest) = some (value, rest) := by
  have hdepth := Nat.not_lt.2 (depth_le_of_writeValue h)
  obtain ⟨fuel, rfl⟩ : ∃ n, fuel = n + 1 := by
    obtain ⟨c, tail, rfl, -⟩ := writeValue_head h
    exact ⟨fuel - 1, by simp only [length_cons] at hfuel; omega⟩
  cases value with
  | null =>
    rw [writeValue, if_neg hdepth] at h
    obtain rfl := Except.ok.inj h
    simp [parseValue, skipSpace_cons, isSpace]
  | bool value =>
    rw [writeValue, if_neg hdepth] at h
    obtain rfl := Except.ok.inj h
    cases value <;> simp [parseValue, skipSpace_cons, isSpace]
  | int number =>
    rw [writeValue, if_neg hdepth, writeNumber_int] at h
    obtain ⟨hnumber, rfl⟩ := h
    obtain ⟨c, tail, hwrite, hc⟩ := writeInteger_head number
    have hread := parseNumber_writeInteger hnumber hrest
    rw [hwrite, cons_append] at hread ⊢
    rw [parseValue_number (hc.imp_left And.left), hread]
  | float number =>
    rw [writeValue, if_neg hdepth] at h
    exact absurd h (writeNumber_float number)
  | str content =>
    rw [writeValue, if_neg hdepth] at h
    obtain rfl := Except.ok.inj h
    have hread := parseString_writeString content rest
    simp [parseValue, writeString, skipSpace_cons, isSpace, hread]
  | arr items =>
    obtain ⟨-, texts, htexts, rfl⟩ := writeValue_arr.1 h
    rw [firstError_eq_ok] at htexts
    cases items with
    | nil =>
      obtain rfl : texts = [] := by simpa [writeItems] using htexts.symm
      exact parseValue_arr_nil fuel rest
    | cons item items =>
      have hfuel' : (commaSeparated texts).length < fuel := by
        simp only [cons_append, length_cons, length_append] at hfuel
        omega
      have hread := parseItems_writeItems (item :: items) rest (cons_ne_nil _ _) hordered htexts hfuel'
      have hopen : expect ']' (commaSeparated texts ++ ']' :: rest) = none := by
        obtain ⟨first, others, rfl, hfirst, -⟩ := writeItems_eq_cons htexts
        obtain ⟨_, tail, rfl, hspace, hne⟩ := writeValue_head hfirst
        exact expect_commaSeparated hspace hne tail others _
      simpa using parseValue_arr hopen hread
  | obj fields =>
    obtain ⟨-, texts, htexts, rfl⟩ := writeValue_obj.1 h
    rw [firstError_eq_ok, sortedMembers_of_pairwise hordered.1] at htexts
    cases fields with
    | nil =>
      obtain rfl : texts = [] := by simpa [writeMembers] using htexts.symm
      exact parseValue_obj_nil fuel rest
    | cons field fields =>
      have hfuel' : (commaSeparated texts).length < fuel := by
        simp only [cons_append, length_cons, length_append] at hfuel
        omega
      have hread :=
        parseMembers_writeMembers (field :: fields) rest (cons_ne_nil _ _) hordered.2 htexts hfuel'
      have hopen : expect '}' (commaSeparated texts ++ '}' :: rest) = none := by
        obtain ⟨first, others, rfl, -, -⟩ := writeMembers_eq_cons htexts
        exact expect_commaSeparated (by decide) (by decide) _ others _
      rw [← objOfMembers_of_pairwise hordered.1]
      simpa using parseValue_obj hopen hread

theorem parseItems_writeItems (items : List Json) {depth fuel : Nat} {texts : List (List Char)}
    (rest : List Char) (hne : items ≠ []) (hordered : OrderedItems items)
    (h : writeItems depth items = texts.map .ok) (hfuel : (commaSeparated texts).length < fuel) :
    parseItems fuel (commaSeparated texts ++ ']' :: rest) = some (items, rest) := by
  obtain ⟨fuel, rfl⟩ : ∃ n, fuel = n + 1 := ⟨fuel - 1, by omega⟩
  match items with
  | [] => exact absurd rfl hne
  | [item] =>
    obtain ⟨text, texts, rfl, hitem, hitems⟩ := writeItems_eq_cons h
    obtain rfl : texts = [] := by simpa [writeItems] using hitems.symm
    exact parseItems_last (parseValue_writeValue item hordered.1 hitem (endsNumber_cons _ (by decide))
      (Nat.lt_succ_iff.1 hfuel))
  | item :: second :: items =>
    obtain ⟨_, _, rfl, hitem, hitems⟩ := writeItems_eq_cons h
    obtain ⟨next, others, rfl, -, -⟩ := writeItems_eq_cons hitems
    rw [commaSeparated_cons_cons, length_append, length_cons] at hfuel
    rw [commaSeparated_cons_cons, append_assoc, cons_append]
    have hlength : (commaSeparated (next :: others)).length < fuel := by omega
    exact parseItems_more
      (parseValue_writeValue item hordered.1 hitem (endsNumber_cons _ (by decide)) (by omega))
      (parseItems_writeItems (second :: items) rest (cons_ne_nil _ _) hordered.2 hitems hlength)

theorem parseMembers_writeMembers (fields : List (String × Json)) {depth fuel : Nat}
    {texts : List (List Char)} (rest : List Char) (hne : fields ≠ []) (hordered : OrderedMembers fields)
    (h : (writeMembers depth fields).map writeMember = texts.map .ok)
    (hfuel : (commaSeparated texts).length < fuel) :
    parseMembers fuel (commaSeparated texts ++ '}' :: rest) = some (fields, rest) := by
  obtain ⟨fuel, rfl⟩ : ∃ n, fuel = n + 1 := ⟨fuel - 1, by omega⟩
  match fields with
  | [] => exact absurd rfl hne
  | [(name, value)] =>
    obtain ⟨text, texts, rfl, hvalue, hmembers⟩ := writeMembers_eq_cons h
    obtain rfl : texts = [] := by simpa [writeMembers] using hmembers.symm
    have hlength : text.length ≤ fuel := by
      simp only [commaSeparated, length_append, length_cons] at hfuel
      omega
    have hread : parseValue fuel (text ++ '}' :: rest) = some (value, '}' :: rest) :=
      parseValue_writeValue value hordered.1 hvalue (endsNumber_cons _ (by decide)) hlength
    have hname := parseString_writeString name (':' :: (text ++ '}' :: rest))
    simpa [commaSeparated, writeString] using parseMembers_last hname hread
  | (name, value) :: second :: fields =>
    obtain ⟨text, _, rfl, hvalue, hmembers⟩ := writeMembers_eq_cons h
    obtain ⟨next, others, rfl, -, -⟩ := writeMembers_eq_cons hmembers
    rw [commaSeparated_cons_cons] at hfuel ⊢
    simp only [length_append, length_cons] at hfuel
    have hlength : (commaSeparated ((writeString second.1 ++ ':' :: next) :: others)).length < fuel := by
      omega
    have hmore :=
      parseMembers_writeMembers (second :: fields) rest (cons_ne_nil _ _) hordered.2 hmembers hlength
    generalize commaSeparated ((writeString second.1 ++ ':' :: next) :: others) = following at *
    have hread : parseValue fuel (text ++ ',' :: (following ++ '}' :: rest)) =
        some (value, ',' :: (following ++ '}' :: rest)) :=
      parseValue_writeValue value hordered.1 hvalue (endsNumber_cons _ (by decide)) (by omega)
    have hname := parseString_writeString name (':' :: (text ++ ',' :: (following ++ '}' :: rest)))
    simpa [writeString] using parseMembers_more hname hread hmore

end

/-! ## The encoding -/

theorem canonicalBytes_eq_ok : canonicalBytes value = .ok bytes ↔
    ∃ text, writeValue 0 value = .ok text ∧ bytes = (String.ofList text).toByteArray := by
  simp only [canonicalBytes, eq_ok]
  exact exists_congr fun text => and_congr_right fun _ => eq_comm

theorem parse_writeValue {value : Json} {text : List Char} (hordered : value.Ordered)
    (h : writeValue 0 value = .ok text) : parse text = some value := by
  have hread : parseValue (text.length + 1) (text ++ []) = some (value, []) :=
    parseValue_writeValue value hordered h endsNumber_nil (Nat.le_succ _)
  rw [append_nil] at hread
  rw [parse, hread]
  rfl

theorem parseBytes_canonicalBytes (hordered : value.Ordered) (h : canonicalBytes value = .ok bytes)
    : parseBytes bytes = some value := by
  obtain ⟨text, htext, rfl⟩ := canonicalBytes_eq_ok.1 h
  rw [parseBytes_toByteArray, String.toList_ofList, parse_writeValue hordered htext]

/-- What it means for the bytes to be a faithful encoding of a document. -/
structure CanonicalFaithful (document : Document) : Prop where
  /-- There are bytes exactly when every number is an integer of `i64` or `u64` and nothing is nested
  deeper than the limit. -/
  succeeds_iff : (∃ bytes, canonicalBytes document.value = .ok bytes) ↔
    ∀ entry ∈ document.value.nested 0, entry.1 ≤ maxCanonicalDepth ∧ IsMachineNumber entry.2
  /-- No other document has the same bytes. -/
  injective : ∀ (other : Document) (bytes : ByteArray), canonicalBytes document.value = .ok bytes →
    canonicalBytes other.value = .ok bytes → document = other
  /-- Parsing the bytes gives the value back, and its bytes are the same. -/
  reparsed : ∀ bytes, canonicalBytes document.value = .ok bytes →
    ∃ value, parseBytes bytes = some value ∧ value = document.value ∧ canonicalBytes value = .ok bytes

/-- Canonical bytes stand for one document and can be parsed again. -/
theorem canonicalBytes_faithful (document : Document) : CanonicalFaithful document where
  succeeds_iff := by
    refine Iff.trans ?_ (exists_writeValue 0 document.value)
    simp only [canonicalBytes_eq_ok]
    exact ⟨fun ⟨_, text, h, _⟩ => ⟨text, h⟩, fun ⟨text, h⟩ => ⟨_, text, h, rfl⟩⟩
  injective other bytes h hother := by
    have hvalue := parseBytes_canonicalBytes document.ordered h
    rw [parseBytes_canonicalBytes other.ordered hother] at hvalue
    exact Document.ext (Option.some.inj hvalue).symm
  reparsed bytes h :=
    ⟨document.value, parseBytes_canonicalBytes document.ordered h, rfl, h⟩

end Vibemux
