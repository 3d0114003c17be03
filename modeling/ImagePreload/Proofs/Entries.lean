import ImagePreload.Value

/-!
# Entries under text keys

A text key equals nothing but itself, whatever else may stand as a key in a
mapping. So entries under text keys behave like the fields of a record: what was
put under a key is found there (`get?_insert`), what stands under other keys is
left alone (`get?_insert_of_ne`), and putting back what was found changes nothing
(`insert_of_get?`).
-/

namespace ImagePreload

@[simp] theorem Value.same_text (s t : String) :
    (Value.text s).same (.text t) = (s == t) := by
  rw [Value.same]

theorem Value.same_text_iff {s : String} {v : Value} :
    (Value.text s).same v = true ↔ v = .text s := by
  constructor
  · intro h
    unfold Value.same at h
    split at h <;> simp_all [Value.number?]
  · rintro rfl
    simp

theorem Value.same_text_right_iff {s : String} {v : Value} :
    v.same (.text s) = true ↔ v = .text s := by
  constructor
  · intro h
    unfold Value.same at h
    split at h <;> simp_all [Value.number?]
  · rintro rfl
    simp

namespace Entries

theorem get?_insert (key value : Value) (hkey : key.same key = true) (es : Entries) :
    (es.insert key value).get? key = some value := by
  induction es with
  | nil => exact if_pos hkey
  | cons e es ih =>
      obtain ⟨k, v⟩ := e
      rw [Entries.insert]
      split
      · next hsame => exact if_pos hsame
      · next hsame =>
          rw [Entries.get?, if_neg hsame]
          exact ih

theorem get?_insert_of_ne {name other : String} (hne : name ≠ other) (value : Value)
    (es : Entries) : (es.insert (.text name) value).get? (.text other) = es.get? (.text other) := by
  have hkey : ¬ (Value.text name).same (.text other) = true := by simpa using hne
  induction es with
  | nil => exact if_neg hkey
  | cons e es ih =>
      obtain ⟨k, v⟩ := e
      rw [Entries.insert]
      split
      · next hsame =>
          obtain rfl := Value.same_text_right_iff.1 hsame
          rw [Entries.get?, Entries.get?, if_neg hkey, if_neg hkey]
      · rw [Entries.get?, Entries.get?, ih]

theorem contains_text_iff {name : String} {es : Entries} :
    es.contains (.text name) = true ↔ .text name ∈ es.keys := by
  rw [Entries.contains]
  induction es with
  | nil => simp [Entries.get?, Entries.keys]
  | cons e es ih =>
      obtain ⟨k, v⟩ := e
      rw [Entries.get?, Entries.keys, List.map_cons, List.mem_cons]
      split
      · next hsame => simp [Value.same_text_right_iff.1 hsame]
      · next hsame =>
          have hne : Value.text name ≠ k := by
            rintro rfl
            exact hsame (by simp)
          rw [ih, Entries.keys, or_iff_right hne]

theorem mem_keys_insert {key k value : Value} {es : Entries} (mem : k ∈ es.keys) :
    k ∈ (es.insert key value).keys := by
  induction es with
  | nil => cases mem
  | cons e es ih =>
      obtain ⟨k', v⟩ := e
      rw [Entries.insert]
      split
      · exact mem
      · rcases List.mem_cons.1 mem with rfl | mem
        · exact List.mem_cons_self
        · exact List.mem_cons_of_mem _ (ih mem)

theorem mem_keys_of_insert {key k value : Value} {es : Entries}
    (mem : k ∈ (es.insert key value).keys) : k ∈ es.keys ∨ k = key := by
  induction es with
  | nil => exact Or.inr (List.mem_singleton.1 mem)
  | cons e es ih =>
      obtain ⟨k', v⟩ := e
      rw [Entries.insert] at mem
      split at mem
      · exact Or.inl mem
      · rcases List.mem_cons.1 mem with rfl | mem
        · exact Or.inl List.mem_cons_self
        · exact (ih mem).imp_left (List.mem_cons_of_mem _)

theorem insert_of_get? {key value : Value} {es : Entries} (h : es.get? key = some value) :
    es.insert key value = es := by
  induction es with
  | nil => cases h
  | cons e es ih =>
      obtain ⟨k, v⟩ := e
      rw [Entries.get?] at h
      rw [Entries.insert]
      split at h
      · next hsame =>
          cases h
          rw [if_pos hsame]
      · next hsame => rw [if_neg hsame, ih h]

end Entries

end ImagePreload
