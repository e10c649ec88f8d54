import ReducedDowntime.Proofs.ReadBack

/-!
# What decoding can produce

A JSON value as a reader produces it keeps each number in its class: a natural below 2^64, a
negative integer of 64 bits, or a float (`Json.InClass`). A decoded tree is sound when each
of its integers is at most the largest of 64 bits and each of its instants is one RFC 3339
text can carry: exactly what writing a document back needs.

Every codec built from strings, booleans, 64-bit integers, instants, names, lists, optional
values and records decodes such a value only to sound trees (`Codec.Sound`): records store
what their fields decode and complete it with sound defaults, whether they are read from an
object or from an array. Normalizing a value keeps its numbers, so decoding after normalizing
is sound too.
-/

namespace ReducedDowntime

/-- The instant a tree without one reads as can be written. -/
theorem Time.Instant.representable_zero : (⟨0, 0⟩ : Time.Instant).Representable :=
  ⟨by decide, .inl (by decide)⟩

/-- A number in the class a reader gives it. -/
def Number.InClass : Number → Prop
  | .nat n => n < Nat.pow 2 64
  | .neg i => -(Nat.pow 2 63 : Int) ≤ i ∧ i < 0
  | .float _ => True

/-- Every number of a JSON value is in its class. -/
inductive Json.InClass : Json → Prop
  | null : Json.InClass .null
  | bool (b : Bool) : Json.InClass (.bool b)
  | num {n : Number} : n.InClass → Json.InClass (.num n)
  | str (s : String) : Json.InClass (.str s)
  | arr {items : List Json} : (∀ j ∈ items, Json.InClass j) → Json.InClass (.arr items)
  | obj {ms : List (String × Json)} : (∀ m ∈ ms, Json.InClass m.2) → Json.InClass (.obj ms)

namespace Json

/-- Integers of at most 64 bits from above and instants that text can carry, at every depth. -/
inductive Decoded.Sound : Decoded → Prop
  | absent : Decoded.Sound .absent
  | flag (b : Bool) : Decoded.Sound (.flag b)
  | int {i : Int} : i ≤ Codec.i64Max → Decoded.Sound (.int i)
  | text (s : String) : Decoded.Sound (.text s)
  | time {t : Time.Instant} : t.Representable → Decoded.Sound (.time t)
  | list {ds : List Decoded} : (∀ d ∈ ds, Decoded.Sound d) → Decoded.Sound (.list ds)
  | record {ds : List Decoded} : (∀ d ∈ ds, Decoded.Sound d) → Decoded.Sound (.record ds)

/-- A codec decodes every value in class that it accepts to a sound tree. -/
def Codec.Sound (c : Codec) : Prop := ∀ j d, j.InClass → c.fromJson j = .ok d → d.Sound

/-- A field decodes and defaults to sound trees. -/
def Field.Sound (f : Field) : Prop := f.codec.Sound ∧ ∀ d, f.absence = .default d → d.Sound

/-- Every field of a list is sound. -/
def Field.AllSound : List Field → Prop
  | [] => True
  | f :: fs => f.Sound ∧ Field.AllSound fs

theorem Field.AllSound.of_mem : ∀ {fields : List Field}, Field.AllSound fields → ∀ f ∈ fields, f.Sound
  | _ :: _, ⟨hf, _⟩, _, .head _ => hf
  | _ :: _, ⟨_, hfs⟩, f, .tail _ hmem => hfs.of_mem f hmem

namespace Codec

/-! ## The leaves -/

theorem refuse_ne_ok {α : Type} {found : Found} {expected : String} {a : α} :
    refuse found expected ≠ .ok a := nofun

theorem string_sound : Codec.string.Sound := by
  intro j d hj h
  cases j with
  | str s =>
    cases h
    exact .text s
  | _ => exact absurd h refuse_ne_ok

theorem boolean_sound : Codec.boolean.Sound := by
  intro j d hj h
  cases j with
  | bool b =>
    cases h
    exact .flag b
  | _ => exact absurd h refuse_ne_ok

/-- A positive integer is read only up to the largest of 64 bits; a negative one is below it. -/
theorem int64_sound : Codec.int64.Sound := by
  intro j d hj h
  cases j with
  | num n =>
    cases n with
    | nat n =>
      simp only [int64, int64OfNumber] at h
      split at h
      · cases h
        exact .int (by omega)
      · cases h
    | neg i =>
      cases h
      cases hj with
      | num hn => exact .int (by have := hn.2; omega)
    | float f => exact absurd h refuse_ne_ok
  | _ => exact absurd h refuse_ne_ok

theorem instant_sound : Codec.instant.Sound := by
  intro j d hj h
  cases j with
  | str s =>
    simp only [instant, instantOfText] at h
    split at h
    · rename_i t ht
      cases h
      exact .time (Time.parseInstant_representable ht)
    · cases h
  | _ => exact absurd h refuse_ne_ok

theorem oneOf_sound (typeName : String) (names : List String) : (oneOf typeName names).Sound := by
  intro j d hj h
  simp only [oneOf] at h
  split at h
  · cases h
    exact .text _
  · split at h
    · cases h
      exact .text _
    · cases h
  · cases h
  · cases h

theorem optional_sound {c : Codec} (hc : c.Sound) : (optional c).Sound := by
  intro j d hj h
  cases j with
  | null =>
    cases h
    exact .absent
  | _ => exact hc _ d hj h

theorem decodeAll_sound {c : Codec} (hc : c.Sound) :
    ∀ (items : List Json) (ds : List Decoded), (∀ j ∈ items, j.InClass) → decodeAll c items = .ok ds →
      ∀ d ∈ ds, d.Sound
  | [], ds, _, h => by
    cases h
    exact nofun
  | j :: rest, ds, hitems, h => by
    simp only [decodeAll] at h
    obtain ⟨d, hd, h⟩ := bind_eq_ok h
    obtain ⟨ds', hds', h⟩ := bind_eq_ok h
    cases h
    intro d' hd'
    rcases List.mem_cons.mp hd' with rfl | hd'
    · exact hc j _ (hitems j (.head _)) hd
    · exact decodeAll_sound hc rest ds' (fun j' hj' => hitems j' (.tail _ hj')) hds' d' hd'

theorem list_sound {c : Codec} (hc : c.Sound) : (Codec.list c).Sound := by
  intro j d hj h
  cases j with
  | arr items =>
    simp only [list] at h
    obtain ⟨ds, hds, h⟩ := bind_eq_ok h
    cases h
    cases hj with
    | arr hitems => exact .list (decodeAll_sound hc items ds hitems hds)
  | _ => exact absurd h refuse_ne_ok

/-! ## Records -/

/-- Every value stored in the slots is sound. -/
def SlotsSound (slots : List (Option Decoded)) : Prop := ∀ d, some d ∈ slots → d.Sound

theorem slotsSound_empty (fields : List Field) : SlotsSound (fields.map fun _ => none) := by
  intro d hd
  obtain ⟨_, _, h⟩ := List.mem_map.mp hd
  cases h

theorem SlotsSound.store {slots : List (Option Decoded)} (h : SlotsSound slots) (i : Nat)
    {d : Decoded} (hd : d.Sound) : SlotsSound (store slots i d) := by
  intro d' hd'
  rcases List.mem_or_eq_of_mem_set hd' with hmem | heq
  · exact h d' hmem
  · cases heq
    exact hd

/-- The field a key names, or the string codec a record falls back to, decodes soundly. -/
theorem fieldCodec_sound {fields : List Field} (hfields : Field.AllSound fields) (i : Nat) (key : String) :
    ((fields[i]?).getD ⟨key, Codec.string, .required⟩).codec.Sound := by
  cases hf : fields[i]? with
  | none => exact string_sound
  | some f => exact (hfields.of_mem f (List.mem_of_getElem? hf)).1

/-- A monadic fold keeps an invariant that each successful step keeps. -/
theorem foldlM_invariant {α β ε : Type} {f : β → α → Except ε β} {P : β → Prop} :
    ∀ (L : List α), (∀ b a b', a ∈ L → P b → f b a = .ok b' → P b') →
      ∀ b r, P b → L.foldlM f b = .ok r → P r
  | [], _, b, r, hb, h => by
    cases h
    exact hb
  | a :: L, hstep, b, r, hb, h => by
    rw [List.foldlM_cons] at h
    obtain ⟨b', hb', h⟩ := bind_eq_ok h
    exact foldlM_invariant L (fun b a b' ha => hstep b a b' (.tail _ ha)) b' r
      (hstep b a b' (.head _) hb hb') h

/-- Completing sound slots with sound defaults gives sound trees. -/
theorem complete_sound : ∀ {fields : List Field} {slots : List (Option Decoded)} {ds : List Decoded},
    Field.AllSound fields → SlotsSound slots → complete fields slots = .ok ds → ∀ d ∈ ds, d.Sound
  | [], _, ds, _, _, h => by
    cases h
    exact nofun
  | _ :: _, [], ds, _, _, h => by
    cases h
    exact nofun
  | f :: fs, s :: ss, ds, ⟨hf, hfs⟩, hslots, h => by
    -- the first value is the stored one or the field's default
    have hfirst : ∃ v, v.Sound ∧
        (do let vs ← complete fs ss; pure (v :: vs) : Except DecodeError (List Decoded)) = .ok ds := by
      cases s with
      | some w => exact ⟨w, hslots w (.head _), h⟩
      | none =>
        simp only [complete] at h
        cases habs : f.absence with
        | default d =>
          rw [habs] at h
          exact ⟨d, hf.2 d habs, h⟩
        | required =>
          rw [habs] at h
          cases h
    obtain ⟨v, hv, h⟩ := hfirst
    obtain ⟨vs, hvs, h⟩ := bind_eq_ok h
    cases h
    intro d hd
    rcases List.mem_cons.mp hd with rfl | hd
    · exact hv
    · exact complete_sound hfs (fun d hd => hslots d (.tail _ hd)) hvs d hd

/-- A record read from an array decodes each item by its field and defaults the rest. -/
theorem positional_sound {name : String} {fields : List Field} :
    ∀ (i : Nat) (rest : List Field) (items : List Json) (ds : List Decoded),
      Field.AllSound rest → (∀ j ∈ items, j.InClass) →
        record.positional name fields i rest items = .ok ds → ∀ d ∈ ds, d.Sound
  | _, [], [], ds, _, _, h => by
    simp only [record.positional] at h
    cases h
    exact nofun
  | _, [], _ :: _, ds, _, _, h => by
    simp only [record.positional] at h
    cases h
  | i, f :: fs, j :: js, ds, ⟨hf, hfs⟩, hitems, h => by
    simp only [record.positional] at h
    obtain ⟨d, hd, h⟩ := bind_eq_ok h
    obtain ⟨ds', hds', h⟩ := bind_eq_ok h
    cases h
    intro d' hd'
    rcases List.mem_cons.mp hd' with rfl | hd'
    · exact hf.1 j _ (hitems j (.head _)) hd
    · exact positional_sound (i + 1) fs js ds' hfs (fun j' hj' => hitems j' (.tail _ hj')) hds' d' hd'
  | i, f :: fs, [], ds, ⟨hf, hfs⟩, _, h => by
    simp only [record.positional] at h
    cases habs : f.absence with
    | default d =>
      rw [habs] at h
      obtain ⟨ds', hds', h⟩ := bind_eq_ok h
      cases h
      intro d' hd'
      rcases List.mem_cons.mp hd' with rfl | hd'
      · exact hf.2 d' habs
      · exact positional_sound (i + 1) fs [] ds' hfs nofun hds' d' hd'
    | required =>
      rw [habs] at h
      cases h

/-- A record of sound fields decodes soundly, from an object or from an array. -/
theorem record_sound {name : String} {fields : List Field} (hfields : Field.AllSound fields) :
    (record name fields).Sound := by
  intro j d hj h
  cases j with
  | obj ms =>
    have hms : ∀ m ∈ ms, m.2.InClass := by
      cases hj with
      | obj h => exact h
    simp only [record] at h
    obtain ⟨slots, hslots, h⟩ := bind_eq_ok h
    obtain ⟨ds, hds, h⟩ := bind_eq_ok h
    cases h
    -- each member stores a tree its field's codec decoded
    have hinv : SlotsSound slots := by
      refine foldlM_invariant ms ?_ _ slots (slotsSound_empty fields) hslots
      intro b m b' hm hb hstep
      split at hstep
      · rename_i i _
        obtain ⟨v, hv, hstep⟩ := bind_eq_ok hstep
        cases hstep
        exact hb.store i (fieldCodec_sound hfields i m.1 m.2 v (hms m hm) hv)
      · cases hstep
        exact hb
    exact .record (complete_sound hfields hinv hds)
  | arr items =>
    have hitems : ∀ j ∈ items, j.InClass := by
      cases hj with
      | arr h => exact h
    simp only [record] at h
    obtain ⟨ds, hds, h⟩ := bind_eq_ok h
    cases h
    exact .record (positional_sound 0 fields items ds hfields hitems hds)
  | _ => exact absurd h refuse_ne_ok

theorem optionalField_sound {c : Codec} (hc : c.Sound) (key : String) : (optionalField key c).Sound := by
  refine ⟨optional_sound hc, ?_⟩
  intro d hd
  cases hd
  exact .absent

theorem requiredField_sound {c : Codec} (hc : c.Sound) (key : String) : (requiredField key c).Sound :=
  ⟨hc, nofun⟩

theorem defaultField_sound {c : Codec} (hc : c.Sound) (key : String) {d : Decoded} (hd : d.Sound) :
    (defaultField key c d).Sound := by
  refine ⟨hc, ?_⟩
  intro d' hd'
  cases hd'
  exact hd

end Codec

/-! ## Normalized values -/

theorem mem_of_mem_keepLast :
    ∀ (L acc : List (String × Json)) (m : String × Json),
      m ∈ L.foldl (fun (acc : List (String × Json)) p => if acc.any (·.1 == p.1) then acc else p :: acc) acc →
        m ∈ L ∨ m ∈ acc
  | [], _, _, h => .inr h
  | p :: L, acc, m, h => by
    rw [List.foldl_cons] at h
    rcases mem_of_mem_keepLast L _ m h with hL | hacc
    · exact .inl (.tail _ hL)
    · split at hacc
      · exact .inr hacc
      · rcases List.mem_cons.mp hacc with rfl | hacc
        · exact .inl (.head _)
        · exact .inr hacc

/-- Normalizing keeps only members that were there. -/
theorem Codec.mem_of_mem_sortMembers {ms : List (String × Json)} {m : String × Json}
    (h : m ∈ Codec.sortMembers ms) : m ∈ ms := by
  unfold Codec.sortMembers at h
  rcases mem_of_mem_keepLast ms.reverse [] m (List.mem_mergeSort.mp h) with h | h
  · exact List.mem_reverse.mp h
  · cases h

/-- Normalizing keeps every number, so it keeps their classes. -/
theorem normalize_inClass {j : Json} (h : j.InClass) : (Codec.normalize j).InClass := by
  induction h with
  | null => exact .null
  | bool b => exact .bool b
  | num hn => exact .num hn
  | str s => exact .str s
  | arr _ ih =>
    simp only [Codec.normalize, Codec.normalizeItems_eq]
    refine .arr fun j hj => ?_
    obtain ⟨j', hj', rfl⟩ := List.mem_map.mp hj
    exact ih j' hj'
  | obj _ ih =>
    simp only [Codec.normalize, Codec.normalizeMembers_eq]
    refine .obj fun m hm => ?_
    obtain ⟨p, hp, rfl⟩ := List.mem_map.mp (Codec.mem_of_mem_sortMembers hm)
    exact ih p hp

theorem Codec.Sound.decodeJson {c : Codec} (hc : c.Sound) {j : Json} {d : Decoded} (hj : j.InClass)
    (h : c.decodeJson j = .ok d) : d.Sound :=
  hc _ d (normalize_inClass hj) h

/-! ## Reading sound trees -/

namespace Decoded.Sound

variable {d : Decoded}

theorem field (h : d.Sound) (i : Nat) : (d.field i).Sound := by
  cases h with
  | @record ds hds =>
    simp only [Decoded.field, List.getD_eq_getElem?_getD]
    cases hget : ds[i]? with
    | none => exact .absent
    | some x => exact hds x (List.mem_of_getElem? hget)
  | _ => exact .absent

theorem asInt_le (h : d.Sound) : d.asInt ≤ Codec.i64Max := by
  cases h with
  | int hi => exact hi
  | _ => simp only [Decoded.asInt]; omega

theorem asInstant (h : d.Sound) : d.asInstant.Representable := by
  cases h with
  | time ht => exact ht
  | _ => exact Time.Instant.representable_zero

theorem asList (h : d.Sound) : ∀ x ∈ d.asList, x.Sound := by
  cases h with
  | list hds => exact hds
  | _ => exact nofun

end Decoded.Sound

/-- What a present optional value reads as is what its tree reads as. -/
theorem Decoded.forall_mem_asOption {α : Type} {P : α → Prop} {f : Decoded → α} {d : Decoded}
    (h : P (f d)) : ∀ a ∈ d.asOption f, P a := by
  intro a ha
  cases d with
  | absent => cases ha
  | _ =>
    cases ha
    exact h

end Json

end ReducedDowntime
