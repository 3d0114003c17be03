import ImagePreload.Proofs.Entries
import ImagePreload.WorkloadKind
import Mathlib.Data.List.Forall2

/-!
# Where the images of a document stand

A dotted name leads somewhere exactly if its components do, one mapping inside the
other (`Value.leads_iff`). That is all there is to the images of a document. The
kind says where the items are (`Value.itemsAt_iff`) and where the image is in each
of them (`Value.imageAt_iff`), and both come to nothing where the way breaks off: at
a key that is missing, at a value that is no mapping, or at an end that is no list
or is null.

So a document has one image for each item, which may be empty. Kinds that wrap a pod
template keep the empty ones, the others leave them out
(`WorkloadKind.images_by_kind`).
-/

namespace ImagePreload

namespace Value

/-- Keys lead from a value to another one, through a mapping for each key. -/
inductive Leads : Value → List String → Value → Prop where
  | here (v : Value) : Leads v [] v
  | inside {entries : Entries} {key : String} {keys : List String} {v w : Value}
    (found : entries.get? (.text key) = some v) (rest : Leads v keys w) :
    Leads (.map entries) (key :: keys) w

theorem leads_iff {v w : Value} {keys : List String} : v.Leads keys w ↔ v.at? keys = some w := by
  constructor
  · intro h
    induction h with
    | here v => rfl
    | inside found _ ih => rw [at?, field?, found, Option.bind_some, ih]
  · intro h
    induction keys generalizing v with
    | nil =>
        cases h
        exact .here _
    | cons key keys ih =>
        obtain ⟨inner, hfield, hrest⟩ := Option.bind_eq_some_iff.1 h
        cases v with
        | map entries => exact .inside hfield (ih hrest)
        | _ => cases hfield

theorem Leads.unique {v w w' : Value} {keys : List String} (h : v.Leads keys w)
    (h' : v.Leads keys w') : w = w' :=
  Option.some.inj ((leads_iff.1 h).symm.trans (leads_iff.1 h'))

theorem leads_lookup_iff {v w : Value} {name : String} :
    v.Leads (dotted name) w ↔ v.lookup? name = some w := leads_iff

/-- The items of the list that keys lead to; none where they lead to no list. -/
inductive ItemsAt (v : Value) (keys : List String) : List Value → Prop where
  | list {items : List Value} (leads : v.Leads keys (.list items)) : ItemsAt v keys items
  | nowhere (astray : ∀ items, ¬ v.Leads keys (.list items)) : ItemsAt v keys []

/-- The text of what keys lead to, empty where they lead to nothing or to null. -/
inductive ImageAt (item : Value) (keys : List String) : String → Prop where
  | written {image : Value} (leads : item.Leads keys image) (given : image ≠ .null) :
    ImageAt item keys image.display
  | missing (astray : ∀ image, item.Leads keys image → image = .null) : ImageAt item keys ""

theorem itemsAt_iff {v : Value} {name : String} {items : List Value} :
    v.ItemsAt (dotted name) items ↔ v.listAt name = items := by
  constructor
  · rintro (⟨leads⟩ | ⟨astray⟩)
    · rw [listAt, leads_lookup_iff.1 leads]
    · rw [listAt]
      split
      · next items hlist => exact absurd (leads_lookup_iff.2 hlist) (astray items)
      · rfl
  · rintro rfl
    rw [listAt]
    split
    · next items hlist => exact .list (leads_lookup_iff.2 hlist)
    · next hnone => exact .nowhere fun items leads => hnone items (leads_lookup_iff.1 leads)

theorem imageAt_iff {kind : WorkloadKind} {item : Value} {text : String} :
    item.ImageAt (dotted kind.imagePath) text ↔ kind.imageOf item = text := by
  constructor
  · rintro (⟨leads, given⟩ | ⟨astray⟩)
    · rw [WorkloadKind.imageOf, WorkloadKind.imageValue, leads_lookup_iff.1 leads,
        Option.getD_some]
      split
      · exact absurd rfl given
      · rfl
    · rw [WorkloadKind.imageOf, WorkloadKind.imageValue]
      cases hfound : item.lookup? kind.imagePath with
      | none => rfl
      | some image =>
          obtain rfl := astray image (leads_lookup_iff.2 hfound)
          rfl
  · rintro rfl
    rw [WorkloadKind.imageOf, WorkloadKind.imageValue]
    cases hfound : item.lookup? kind.imagePath with
    | none =>
        refine .missing fun image leads => ?_
        cases hfound.symm.trans (leads_lookup_iff.1 leads)
    | some image =>
        rw [Option.getD_some]
        split
        · refine .missing fun other leads => ?_
          cases hfound.symm.trans (leads_lookup_iff.1 leads)
          rfl
        · next given => exact .written (leads_lookup_iff.2 hfound) given

end Value

/-- Texts that are the images of the items at the end of some keys, one for each. -/
structure ImagesAt (document : Value) (itemKeys imageKeys : List String) (items : List Value)
    (texts : List String) : Prop where
  items_at : document.ItemsAt itemKeys items
  image_at : List.Forall₂ (fun item text => item.ImageAt imageKeys text) items texts

namespace WorkloadKind

variable (kind : WorkloadKind) (document : Value)

theorem imagesAt_iff {items : List Value} {texts : List String} :
    ImagesAt document (dotted kind.itemsPath) (dotted kind.imagePath) items texts ↔
      document.listAt kind.itemsPath = items ∧ items.map kind.imageOf = texts := by
  have hall : List.Forall₂ (fun item text => item.ImageAt (dotted kind.imagePath) text)
      items texts ↔ items.map kind.imageOf = texts := by
    simp only [Value.imageAt_iff]
    rw [← List.forall₂_map_left_iff, List.forall₂_eq_eq_eq]
  exact ⟨fun h => ⟨Value.itemsAt_iff.1 h.items_at, hall.1 h.image_at⟩,
    fun h => ⟨Value.itemsAt_iff.2 h.1, hall.2 h.2⟩⟩

variable {itemKeys imageKeys : List String}

theorem images_of_keepsEmpty (items_path : dotted kind.itemsPath = itemKeys)
    (image_path : dotted kind.imagePath = imageKeys) (keeps : kind.keepsEmpty = true) :
    ∃ items, ImagesAt document itemKeys imageKeys items (kind.images document) := by
  subst items_path image_path
  refine ⟨_, (kind.imagesAt_iff document).2 ⟨rfl, ?_⟩⟩
  rw [images, if_pos keeps]

theorem images_of_not_keepsEmpty (items_path : dotted kind.itemsPath = itemKeys)
    (image_path : dotted kind.imagePath = imageKeys) (drops : kind.keepsEmpty = false) :
    ∃ items texts, ImagesAt document itemKeys imageKeys items texts ∧
      kind.images document = texts.filter (· != "") := by
  subst items_path image_path
  refine ⟨_, _, (kind.imagesAt_iff document).2 ⟨rfl, rfl⟩, ?_⟩
  rw [images, drops, if_neg Bool.false_ne_true]

theorem images_congr {document other : Value}
    (alike : ∀ items, document.ItemsAt (dotted kind.itemsPath) items →
      other.ItemsAt (dotted kind.itemsPath) items) :
    kind.images other = kind.images document := by
  have hitems := Value.itemsAt_iff.1 (alike _ (Value.itemsAt_iff.2 rfl))
  rw [images, images, hitems]

/-- The images of a document by its kind. Kinds that wrap a pod template have one for
each container of it. A pod has those of its containers that are not empty, a virtual
machine those of the disks among its volumes. The rest of the document does not
matter. -/
theorem images_by_kind (document : Value) :
    (∀ kind ∈ [deployment, daemonSet, replicaSet, job, statefulSet], ∃ items,
      ImagesAt document ["spec", "template", "spec", "containers"] ["image"] items
        (kind.images document) ∧ (kind.images document).length = items.length) ∧
    (∃ items texts, ImagesAt document ["spec", "containers"] ["image"] items texts ∧
      pod.images document = texts.filter (· != "")) ∧
    (∃ items texts,
      ImagesAt document ["spec", "volumes"] ["containerDisk", "image"] items texts ∧
        virtualMachineInstance.images document = texts.filter (· != "")) ∧
    (∀ kind ∈ [virtualMachine, virtualMachineInstanceReplicaSet], ∃ items texts,
      ImagesAt document ["spec", "template", "spec", "volumes"] ["containerDisk", "image"] items
        texts ∧ kind.images document = texts.filter (· != "")) ∧
    ∀ (kind : WorkloadKind) (other : Value),
      (∀ items, document.ItemsAt (dotted kind.itemsPath) items →
        other.ItemsAt (dotted kind.itemsPath) items) →
      kind.images other = kind.images document := by
  have pods : ∀ kind ∈ [deployment, daemonSet, replicaSet, job, statefulSet],
      dotted kind.itemsPath = ["spec", "template", "spec", "containers"] ∧
        dotted kind.imagePath = ["image"] ∧ kind.keepsEmpty = true := by decide
  have machines : ∀ kind ∈ [virtualMachine, virtualMachineInstanceReplicaSet],
      dotted kind.itemsPath = ["spec", "template", "spec", "volumes"] ∧
        dotted kind.imagePath = ["containerDisk", "image"] ∧ kind.keepsEmpty = false := by decide
  refine ⟨fun kind hkind => ?_, pod.images_of_not_keepsEmpty document (by decide) (by decide) rfl,
    virtualMachineInstance.images_of_not_keepsEmpty document (by decide) (by decide) rfl,
    fun kind hkind => ?_, fun kind _ => kind.images_congr⟩
  · obtain ⟨hitems, himage, hkeeps⟩ := pods kind hkind
    obtain ⟨items, hat⟩ := kind.images_of_keepsEmpty document hitems himage hkeeps
    exact ⟨items, hat, hat.image_at.length_eq.symm⟩
  · obtain ⟨hitems, himage, hdrops⟩ := machines kind hkind
    exact kind.images_of_not_keepsEmpty document hitems himage hdrops

/-- A deployment of some name. Only its first container is as it should be. -/
def raggedDeployment (name : String) : Value :=
  .map [(.text "metadata", .map [(.text "name", .text name)]),
    (.text "spec", .map [(.text "template", .map [(.text "spec", .map [(.text "containers",
      .list [.map [(.text "image", .text "a")], .text "image", .map [(.text "image", .int 1)],
        .map [(.text "image", .null)]])])])])]

theorem images_by_kind_ragged :
    (deployment ∈ [deployment, daemonSet, replicaSet, job, statefulSet] ∧ ∃ items,
      ImagesAt (raggedDeployment "web") ["spec", "template", "spec", "containers"] ["image"] items
        ["a", "", "1", ""] ∧ 4 = items.length) ∧
    deployment.images (raggedDeployment "mail") = deployment.images (raggedDeployment "web") := by
  have himages : deployment.images (raggedDeployment "web") = ["a", "", "1", ""] := by
    decide +kernel
  have hat := (images_by_kind (raggedDeployment "web")).1 deployment (by decide)
  rw [himages] at hat
  have hkeys : dotted deployment.itemsPath = ["spec", "template", "spec", "containers"] := by
    decide
  have hlist : (raggedDeployment "mail").listAt deployment.itemsPath =
      (raggedDeployment "web").listAt deployment.itemsPath := by
    rw [Value.listAt, Value.listAt, Value.lookup?, Value.lookup?, hkeys]
    simp [Value.at?, Value.field?, Entries.get?, raggedDeployment]
  have alike : ∀ items, (raggedDeployment "web").ItemsAt (dotted deployment.itemsPath) items →
      (raggedDeployment "mail").ItemsAt (dotted deployment.itemsPath) items := fun items h =>
    Value.itemsAt_iff.2 (hlist.trans (Value.itemsAt_iff.1 h))
  exact ⟨⟨by decide, hat⟩, (images_by_kind (raggedDeployment "web")).2.2.2.2 deployment
    (raggedDeployment "mail") alike⟩

end WorkloadKind

end ImagePreload
