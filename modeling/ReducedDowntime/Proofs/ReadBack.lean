import ReducedDowntime.Proofs.InstantText
import ReducedDowntime.Wire.Codecs

/-!
# Reading records back

A record is written as an object of the members its fields have values for, in the order of
the fields (`members`). A JSON value is normalized before it is decoded: each key once, the
last one written, and the keys in sorted order. Written members have distinct keys, so
normalizing only reorders them (`sortMembers_perm`), and storing the members' values into the
slots of their fields does not depend on the order (`storeDecoded_comm`). Decoding the object
therefore fills each field with the value decoded from its member, or with its default when
it has none (`record_decodeJson`); `Fills` says what each field is given and what it decodes
to.

`ReadsBack` packs that for one codec: what it writes of every value that fits decodes to a
tree that reads back to the value. Strings, booleans, 64-bit integers, instants, names, lists,
optional members and records of such fields read back (`ReadsBack.of_fills`).
-/

namespace ReducedDowntime.Json

namespace Codec

/-! ## Normal form of read values -/

theorem normalizeMembers_eq (ms : List (String × Json)) :
    normalizeMembers ms = ms.map fun p => (p.1, normalize p.2) := by
  induction ms with
  | nil => simp only [normalizeMembers, List.map_nil]
  | cons p ms ih =>
    obtain ⟨k, v⟩ := p
    simp only [normalizeMembers, ih, List.map_cons]

theorem normalizeItems_eq (items : List Json) : normalizeItems items = items.map normalize := by
  induction items with
  | nil => rfl
  | cons j items ih => simp only [normalizeItems, ih, List.map_cons]

theorem normalize_ne_null {j : Json} (h : j ≠ .null) : normalize j ≠ .null := by
  cases j with
  | null => exact absurd rfl h
  | arr items =>
    simp only [normalize]
    intro h'
    cases h'
  | obj fields =>
    simp only [normalize]
    intro h'
    cases h'
  | bool b => exact h
  | num n => exact h
  | str s => exact h

/-- Two pairs of a list with distinct keys that share a key are the same pair. -/
theorem eq_of_key_eq {L : List (String × Json)} (h : (L.map Prod.fst).Nodup) :
    ∀ {x y}, x ∈ L → y ∈ L → x.1 = y.1 → x = y := by
  induction L with
  | nil => intro x y hx; cases hx
  | cons p L ih =>
    intro x y hx hy hxy
    rw [List.map_cons, List.nodup_cons] at h
    have hout : ∀ z ∈ L, z.1 ≠ p.1 := fun z hz hzp =>
      h.1 (List.mem_map.mpr ⟨z, hz, hzp⟩)
    rcases List.mem_cons.mp hx with rfl | hxL <;> rcases List.mem_cons.mp hy with rfl | hyL
    · rfl
    · exact absurd hxy.symm (hout y hyL)
    · exact absurd hxy (hout x hxL)
    · exact ih h.2 hxL hyL hxy

/-- Keeping the last pair of each key keeps every pair, in order, when the keys are distinct. -/
theorem keepLast_of_nodup : ∀ (ms acc : List (String × Json)), ((ms ++ acc).map Prod.fst).Nodup →
    ms.reverse.foldl
      (fun (acc : List (String × Json)) p => if acc.any (·.1 == p.1) then acc else p :: acc) acc =
      ms ++ acc
  | [], acc, _ => rfl
  | p :: ms, acc, h => by
    rw [List.cons_append, List.map_cons, List.nodup_cons] at h
    rw [List.reverse_cons, List.foldl_append, keepLast_of_nodup ms acc h.2, List.foldl_cons,
      List.foldl_nil, List.cons_append]
    have hnot : (ms ++ acc).any (·.1 == p.1) = false := by
      rw [List.any_eq_false]
      intro q hq hqp
      exact h.1 (List.mem_map.mpr ⟨q, hq, by simpa using hqp⟩)
    rw [hnot]
    rfl

/-- Normalizing members with distinct keys only reorders them. -/
theorem sortMembers_perm {ms : List (String × Json)} (h : (ms.map Prod.fst).Nodup) :
    (sortMembers ms).Perm ms := by
  unfold sortMembers
  have hlast := keepLast_of_nodup ms [] (by simpa using h)
  rw [List.append_nil] at hlast
  dsimp only
  rw [hlast]
  exact List.mergeSort_perm _ _

/-! ## Fields and their slots -/

theorem fieldIndex_cons_self (f : Field) (fs : List Field) : fieldIndex (f :: fs) f.key = some 0 := by
  simp [fieldIndex, List.findIdx?_cons]

theorem fieldIndex_cons_of_ne {f : Field} {fs : List Field} {k : String} (h : f.key ≠ k) :
    fieldIndex (f :: fs) k = (fieldIndex fs k).map (· + 1) := by
  simp [fieldIndex, List.findIdx?_cons, h]

/-- A key names the field at its index. -/
theorem key_of_fieldIndex {fields : List Field} {k : String} {i : Nat}
    (h : fieldIndex fields k = some i) : ∃ hi : i < fields.length, fields[i].key = k := by
  obtain ⟨hi, hk, -⟩ := List.findIdx?_eq_some_iff_getElem.mp h
  exact ⟨hi, by simpa using hk⟩

/-- What reading a member stores in the slots: the value decoded for the field its key names,
nothing when the key names none or the value does not decode. -/
def storeDecoded (fields : List Field) (slots : List (Option Decoded)) (m : String × Json) :
    List (Option Decoded) :=
  match fieldIndex fields m.1 with
  | some i =>
    match ((fields[i]?).getD ⟨m.1, Codec.string, .required⟩).codec.fromJson m.2 with
    | .ok d => store slots i d
    | .error _ => slots
  | none => slots

/-- Members with different keys fill different slots. -/
theorem storeDecoded_comm {fields : List Field} {x y : String × Json} (hxy : x.1 ≠ y.1)
    (slots : List (Option Decoded)) :
    storeDecoded fields (storeDecoded fields slots x) y =
      storeDecoded fields (storeDecoded fields slots y) x := by
  unfold storeDecoded
  cases hx : fieldIndex fields x.1 with
  | none => rfl
  | some i =>
    cases hy : fieldIndex fields y.1 with
    | none => rfl
    | some j =>
      have hij : i ≠ j := by
        rintro rfl
        obtain ⟨_, hki⟩ := key_of_fieldIndex hx
        obtain ⟨_, hkj⟩ := key_of_fieldIndex hy
        exact hxy (hki.symm.trans hkj)
      dsimp only
      cases ((fields[i]?).getD ⟨x.1, Codec.string, .required⟩).codec.fromJson x.2 <;>
        cases ((fields[j]?).getD ⟨y.1, Codec.string, .required⟩).codec.fromJson y.2 <;>
        simp only [store, List.set_comm _ _ hij]

/-- A member whose key is not the first field's leaves that field's slot alone. -/
theorem storeDecoded_cons_of_ne {f : Field} {fs : List Field} {m : String × Json} (h : m.1 ≠ f.key)
    (x : Option Decoded) (slots : List (Option Decoded)) :
    storeDecoded (f :: fs) (x :: slots) m = x :: storeDecoded fs slots m := by
  unfold storeDecoded
  rw [fieldIndex_cons_of_ne (Ne.symm h)]
  cases fieldIndex fs m.1 with
  | none => rfl
  | some i =>
    simp only [Option.map_some, List.getElem?_cons_succ]
    cases ((fs[i]?).getD ⟨m.1, Codec.string, .required⟩).codec.fromJson m.2 with
    | ok d => simp only [store, List.set_cons_succ]
    | error e => rfl

theorem foldl_storeDecoded_cons {f : Field} {fs : List Field} :
    ∀ {L : List (String × Json)} (x : Option Decoded) (slots : List (Option Decoded)),
    (∀ m ∈ L, m.1 ≠ f.key) →
      L.foldl (storeDecoded (f :: fs)) (x :: slots) = x :: L.foldl (storeDecoded fs) slots
  | [], _, _, _ => rfl
  | m :: L, x, slots, h => by
    rw [List.foldl_cons, List.foldl_cons, storeDecoded_cons_of_ne (h m (.head _)),
      foldl_storeDecoded_cons x _ (fun m' hm' => h m' (.tail _ hm'))]

/-- Folding read members into slots succeeds when every member's step does. -/
theorem foldlM_eq_ok {α β ε : Type} {f : β → α → Except ε β} {g : β → α → β} :
    ∀ (L : List α) (b : β), (∀ a ∈ L, ∀ b, f b a = .ok (g b a)) → L.foldlM f b = .ok (L.foldl g b)
  | [], _, _ => rfl
  | a :: L, b, h => by
    rw [List.foldlM_cons, h a (.head _), ok_bind, List.foldl_cons]
    exact foldlM_eq_ok L _ fun a' ha' => h a' (.tail _ ha')

/-- An object decodes as its record when the value of every member whose key names a field
decodes: each member is stored in its field's slot, in the order of the members. -/
theorem record_fromJson_obj {name : String} {fields : List Field} {ms : List (String × Json)}
    (h : ∀ m ∈ ms, ∀ i, fieldIndex fields m.1 = some i →
      ∃ d, ((fields[i]?).getD ⟨m.1, Codec.string, .required⟩).codec.fromJson m.2 = .ok d) :
    (Codec.record name fields).fromJson (.obj ms) =
      (complete fields (ms.foldl (storeDecoded fields) (fields.map fun _ => none))).map .record := by
  simp only [record]
  rw [foldlM_eq_ok ms _ ?step, ok_bind]
  · cases complete fields (ms.foldl (storeDecoded fields) (fields.map fun _ => none)) <;> rfl
  case step =>
    intro m hm slots
    unfold storeDecoded
    cases hi : fieldIndex fields m.1 with
    | none => rfl
    | some i =>
      obtain ⟨d, hd⟩ := h m hm i hi
      simp only [hd, ok_bind]
      rfl

end Codec

/-! ## Records written member by member -/

/-- The members a record writes: the key of each field given a value, in field order. -/
def members : List Field → List (Option Json) → List (String × Json)
  | f :: fs, v :: vs => (v.map fun j => (f.key, j)).toList ++ members fs vs
  | _, _ => []

/-- What a field decodes to when it is written as a value, or left out. -/
def Field.Fill (f : Field) : Option Json → Decoded → Prop
  | some j, d => f.codec.decodeJson j = .ok d
  | none, d => f.absence = .default d

/-- Each field, given its value or left out, decodes to its tree. -/
inductive Fills : List Field → List (Option Json) → List Decoded → Prop
  | nil : Fills [] [] []
  | cons {f : Field} {fs : List Field} {v : Option Json} {vs : List (Option Json)} {d : Decoded}
      {ds : List Decoded} : f.Fill v d → Fills fs vs ds → Fills (f :: fs) (v :: vs) (d :: ds)

theorem members_keys_sublist :
    ∀ (fields : List Field) (values : List (Option Json)),
      ((members fields values).map Prod.fst).Sublist (fields.map Field.key)
  | [], _ => by simp only [members, List.map_nil, List.Sublist.slnil]
  | _ :: _, [] => by simp only [members, List.map_nil, List.nil_sublist]
  | f :: fs, none :: vs => (members_keys_sublist fs vs).cons f.key
  | f :: fs, some _ :: vs => (members_keys_sublist fs vs).cons_cons f.key

/-- A member written for a field decodes by the field its key names, when keys are distinct. -/
theorem Fills.decodes_member {fields : List Field} {values : List (Option Json)} {ds : List Decoded}
    (hfill : Fills fields values ds) (hkeys : (fields.map Field.key).Nodup) {m : String × Json}
    (hm : m ∈ members fields values) {i : Nat} (hi : Codec.fieldIndex fields m.1 = some i) :
    ∃ d, ((fields[i]?).getD ⟨m.1, Codec.string, .required⟩).codec.decodeJson m.2 = .ok d := by
  induction hfill generalizing i with
  | nil => cases hm
  | @cons f fs v vs d ds hf _ ih =>
    rw [List.map_cons, List.nodup_cons] at hkeys
    have hrest : m ∈ members fs vs → m.1 ≠ f.key := fun hm' hk =>
      hkeys.1 (hk ▸ (members_keys_sublist fs vs).subset (List.mem_map_of_mem hm'))
    have hm' : (∃ j, v = some j ∧ m = (f.key, j)) ∨ m ∈ members fs vs := by
      cases v with
      | none => exact .inr hm
      | some j =>
        rcases List.mem_cons.mp hm with rfl | hm
        · exact .inl ⟨j, rfl, rfl⟩
        · exact .inr hm
    rcases hm' with ⟨j, rfl, rfl⟩ | hm'
    · -- the member of the first field: its index is 0
      rw [Codec.fieldIndex_cons_self, Option.some.injEq] at hi
      subst hi
      exact ⟨d, hf⟩
    · obtain ⟨i', hi', rfl⟩ :=
        Option.map_eq_some_iff.mp (Codec.fieldIndex_cons_of_ne (Ne.symm (hrest hm')) ▸ hi)
      rw [List.getElem?_cons_succ]
      exact ih hkeys.2 hm' hi'

/-- The written member of the first field fills the first slot. -/
theorem storeDecoded_head {f : Field} {fs : List Field} {j : Json} {d : Decoded}
    (h : f.codec.fromJson j = .ok d) (slots : List (Option Decoded)) :
    Codec.storeDecoded (f :: fs) (none :: slots) (f.key, j) = some d :: slots := by
  unfold Codec.storeDecoded
  rw [Codec.fieldIndex_cons_self]
  simp only [List.getElem?_cons_zero, Option.getD_some, h]
  rfl

/-- Storing the written members, normalized, in field order and completing the slots gives each
field its tree. -/
theorem Fills.complete {fields : List Field} {values : List (Option Json)} {ds : List Decoded}
    (hfill : Fills fields values ds) (hkeys : (fields.map Field.key).Nodup) :
    Codec.complete fields (((members fields values).map fun p => (p.1, Codec.normalize p.2)).foldl
      (Codec.storeDecoded fields) (fields.map fun _ => none)) = .ok ds := by
  induction hfill with
  | nil => rfl
  | @cons f fs v vs d ds hf _ ih =>
    rw [List.map_cons, List.nodup_cons] at hkeys
    -- the later members belong to later fields, so they leave the first slot alone
    have hlater : ∀ m ∈ (members fs vs).map fun p => (p.1, Codec.normalize p.2), m.1 ≠ f.key := by
      intro m hm hk
      obtain ⟨p, hp, rfl⟩ := List.mem_map.mp hm
      have hin : p.1 ∈ fs.map Field.key := (members_keys_sublist fs vs).subset (List.mem_map_of_mem hp)
      exact hkeys.1 (hk ▸ hin)
    cases v with
    | none =>
      have hdefault : f.absence = .default d := hf
      simp only [members, Option.map_none, Option.toList_none, List.nil_append, List.map_cons]
      rw [Codec.foldl_storeDecoded_cons none _ hlater]
      simp only [Codec.complete, hdefault, ok_bind, ih hkeys.2]
      rfl
    | some j =>
      have hdecode : f.codec.fromJson (Codec.normalize j) = .ok d := hf
      simp only [members, Option.map_some, Option.toList_some, List.cons_append, List.nil_append,
        List.map_cons, List.foldl_cons, List.map_cons, storeDecoded_head hdecode]
      rw [Codec.foldl_storeDecoded_cons (some d) _ hlater]
      simp only [Codec.complete, ok_bind, ih hkeys.2]
      rfl

/-- A record decodes what it writes: with distinct keys, the members of the fields given values
decode to the trees of the fields, the others to their defaults. -/
theorem record_decodeJson {name : String} {fields : List Field} {values : List (Option Json)}
    {ds : List Decoded} (hkeys : (fields.map Field.key).Nodup) (hfill : Fills fields values ds) :
    (Codec.record name fields).decodeJson (.obj (members fields values)) = .ok (.record ds) := by
  let written := (members fields values).map fun p => (p.1, Codec.normalize p.2)
  have hnodup : (written.map Prod.fst).Nodup := by
    simp only [written, List.map_map]
    exact hkeys.sublist (members_keys_sublist fields values)
  have hperm : (Codec.sortMembers written).Perm written := Codec.sortMembers_perm hnodup
  have hsorted : ((Codec.sortMembers written).map Prod.fst).Nodup :=
    (hperm.map Prod.fst).nodup_iff.mpr hnodup
  unfold Codec.decodeJson
  simp only [Codec.normalize, Codec.normalizeMembers_eq]
  rw [Codec.record_fromJson_obj, hperm.foldl_eq', hfill.complete hkeys]
  · rfl
  · -- members with one key are one member; members with two keys fill two slots
    intro x hx y hy slots
    by_cases hxy : x.1 = y.1
    · rw [Codec.eq_of_key_eq hsorted hx hy hxy]
    · exact Codec.storeDecoded_comm hxy slots
  · intro m hm i hi
    obtain ⟨p, hp, rfl⟩ := List.mem_map.mp (hperm.mem_iff.mp hm)
    exact hfill.decodes_member hkeys hp hi

/-- The same, for a value shown to be the members written. -/
theorem record_decodeJson_of_eq {name : String} {fields : List Field} (values : List (Option Json))
    {ds : List Decoded} {j : Json} (hj : j = .obj (members fields values))
    (hkeys : (fields.map Field.key).Nodup) (hfill : Fills fields values ds) :
    (Codec.record name fields).decodeJson j = .ok (.record ds) := by
  rw [hj]
  exact record_decodeJson hkeys hfill

/-! ## Codecs that read back what they write -/

namespace Codec

/-- A codec reads back what `write` writes: every value that fits is written as JSON other than
`null`, which decodes to a tree other than `absent` that `read` takes back to the value. -/
def ReadsBack {α : Type} (c : Codec) (fits : α → Prop) (write : α → Json) (read : Decoded → α) :
    Prop :=
  ∀ a, fits a → write a ≠ .null ∧ ∃ d, c.decodeJson (write a) = .ok d ∧ d ≠ .absent ∧ read d = a

variable {α : Type} {c : Codec} {fits : α → Prop} {write : α → Json} {read : Decoded → α}

theorem string_readsBack : ReadsBack Codec.string (fun _ => True) Json.str Decoded.asText :=
  fun _ _ => ⟨nofun, _, rfl, nofun, rfl⟩

theorem boolean_readsBack : ReadsBack Codec.boolean (fun _ => True) Json.bool Decoded.asFlag :=
  fun _ _ => ⟨nofun, _, rfl, nofun, rfl⟩

/-- Integers up to the largest of 64 bits read back; negative ones are written in their own
class and read back whatever their size. -/
theorem int64_readsBack : ReadsBack Codec.int64 (fun i : Int => i ≤ i64Max) Json.int Decoded.asInt := by
  intro i hi
  unfold Json.int
  by_cases hneg : i < 0
  · simp only [hneg, if_true]
    exact ⟨nofun, _, rfl, nofun, rfl⟩
  · simp only [hneg, if_false]
    have hle : i.toNat ≤ i64Max := by omega
    refine ⟨nofun, .int i, ?_, nofun, rfl⟩
    simp only [decodeJson, normalize, int64, int64OfNumber, hle, if_true]
    congr 2
    omega

/-- Instants that RFC 3339 text can carry read back from the text they are written as. -/
theorem instant_readsBack :
    ReadsBack Codec.instant Time.Instant.Representable instantJson Decoded.asInstant := by
  intro t ht
  refine ⟨nofun, .time t, ?_, nofun, rfl⟩
  simp only [decodeJson, normalize, instantJson, instant, instantOfText,
    Time.parseInstant_rfc3339 ht]

/-- A set of names reads back each name it holds, through any reading that inverts the naming. -/
theorem oneOf_readsBack {typeName : String} {names : List String} {tag : α → String}
    {ofName : String → α} (hmem : ∀ a, names.contains (tag a) = true) (hof : ∀ a, ofName (tag a) = a) :
    ReadsBack (oneOf typeName names) (fun _ => True) (fun a => .str (tag a))
      (ofName ∘ Decoded.asText) := by
  intro a _
  refine ⟨nofun, .text (tag a), ?_, nofun, hof a⟩
  simp only [decodeJson, normalize, oneOf, nameOf, hmem a, if_true]

/-- Decoding the items of a written list gives trees that read back to the items. -/
theorem decodeAll_readsBack (h : ReadsBack c fits write read) :
    ∀ xs : List α, (∀ a ∈ xs, fits a) →
      ∃ ds, decodeAll c (xs.map (normalize ∘ write)) = .ok ds ∧ ds.map read = xs
  | [], _ => ⟨[], rfl, rfl⟩
  | a :: xs, hxs => by
    obtain ⟨-, d, hd, -, hread⟩ := h a (hxs a (.head _))
    obtain ⟨ds, hds, hreads⟩ := decodeAll_readsBack h xs fun a' ha' => hxs a' (.tail _ ha')
    refine ⟨d :: ds, ?_, by rw [List.map_cons, hread, hreads]⟩
    simp only [List.map_cons, Function.comp_apply, decodeAll]
    rw [show c.fromJson (normalize (write a)) = .ok d from hd, ok_bind, hds, ok_bind]
    rfl

theorem list_readsBack (h : ReadsBack c fits write read) :
    ReadsBack (Codec.list c) (fun xs => ∀ a ∈ xs, fits a) (fun xs => .arr (xs.map write))
      (fun d => d.asList.map read) := by
  intro xs hxs
  obtain ⟨ds, hds, hreads⟩ := decodeAll_readsBack h xs hxs
  refine ⟨nofun, .list ds, ?_, nofun, hreads⟩
  simp only [decodeJson, normalize, normalizeItems_eq, List.map_map, list]
  rw [hds]
  rfl

/-- A value written as a member decodes by its field's codec. -/
theorem ReadsBack.fill (h : ReadsBack c fits write read) {f : Field} (hf : f.codec = c) {a : α}
    (ha : fits a) : ∃ d, f.Fill (some (write a)) d ∧ read d = a := by
  obtain ⟨-, d, hd, -, hread⟩ := h a ha
  refine ⟨d, ?_, hread⟩
  show f.codec.decodeJson (write a) = .ok d
  rw [hf]
  exact hd

theorem optional_fromJson_of_ne_null {j : Json} (h : j ≠ .null) :
    (Codec.optional c).fromJson j = c.fromJson j := by
  cases j with
  | null => exact absurd rfl h
  | _ => rfl

/-- An optional value is written when present and read back as present; an absent one is left
out and read back as absent. -/
theorem ReadsBack.fill_option (h : ReadsBack c fits write read) (key : String) {o : Option α}
    (ho : ∀ a ∈ o, fits a) :
    ∃ d, (optionalField key c).Fill (o.map write) d ∧ d.asOption read = o := by
  cases o with
  | none => exact ⟨.absent, rfl, rfl⟩
  | some a =>
    obtain ⟨hnull, d, hd, habsent, hread⟩ := h a (ho a rfl)
    refine ⟨d, ?_, ?_⟩
    · show (Codec.optional c).fromJson (normalize (write a)) = .ok d
      rw [optional_fromJson_of_ne_null (normalize_ne_null hnull)]
      exact hd
    · cases d with
      | absent => exact absurd rfl habsent
      | _ => exact congrArg some hread

/-- A record of one required field reads back what the field's codec reads back. -/
theorem ReadsBack.wrap (h : ReadsBack c fits write read) (name key : String) :
    ReadsBack (record name [⟨key, c, .required⟩]) fits (fun a => .obj [(key, write a)])
      (fun d => read (d.field 0)) := by
  intro a ha
  obtain ⟨d, hd, hread⟩ := h.fill (f := ⟨key, c, .required⟩) rfl ha
  refine ⟨nofun, .record [d], ?_, nofun, hread⟩
  exact record_decodeJson_of_eq [some (write a)] rfl (List.nodup_cons.mpr ⟨nofun, List.nodup_nil⟩)
    (.cons hd .nil)

/-- A record reads back what it writes when its keys are distinct and its fields decode to trees
that its reading takes back to the value. -/
theorem ReadsBack.of_fills {name : String} {fields : List Field} (hc : c = record name fields)
    (hkeys : (fields.map Field.key).Nodup) (values : α → List (Option Json))
    (hwrite : ∀ a, write a = .obj (members fields (values a)))
    (hfill : ∀ a, fits a → ∃ ds, Fills fields (values a) ds ∧ read (.record ds) = a) :
    ReadsBack c fits write read := by
  intro a ha
  obtain ⟨ds, hds, hread⟩ := hfill a ha
  refine ⟨by rw [hwrite a]; exact nofun, .record ds, ?_, nofun, hread⟩
  rw [hc, hwrite a]
  exact record_decodeJson hkeys hds

end Codec

/-! ## Members as records write them -/

@[simp] theorem members_nil (values : List (Option Json)) : members [] values = [] := by
  cases values <;> rfl

@[simp] theorem members_cons_some (f : Field) (fs : List Field) (j : Json) (vs : List (Option Json)) :
    members (f :: fs) (some j :: vs) = (f.key, j) :: members fs vs := rfl

@[simp] theorem members_cons_none (f : Field) (fs : List Field) (vs : List (Option Json)) :
    members (f :: fs) (none :: vs) = members fs vs := rfl

@[simp] theorem members_cons_map {α : Type} (f : Field) (fs : List Field) (write : α → Json)
    (o : Option α) (vs : List (Option Json)) :
    members (f :: fs) (o.map write :: vs) = (o.map fun a => (f.key, write a)).toList ++ members fs vs := by
  cases o <;> rfl

@[simp] theorem member?_eq_toList {α : Type} (key : String) (write : α → Json) (o : Option α) :
    member? key write o = (o.map fun a => (key, write a)).toList := by
  cases o <;> rfl

@[simp] theorem optionalField_key (key : String) (c : Codec) : (optionalField key c).key = key := rfl

@[simp] theorem requiredField_key (key : String) (c : Codec) : (requiredField key c).key = key := rfl

@[simp] theorem defaultField_key (key : String) (c : Codec) (d : Decoded) :
    (defaultField key c d).key = key := rfl

end ReducedDowntime.Json
