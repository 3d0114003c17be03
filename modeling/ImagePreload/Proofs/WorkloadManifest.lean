import Mathlib
import ImagePreload.Proofs.DocumentImages
import ImagePreload.Proofs.Orchestration

/-!
# The workload that is sent

What a cluster is asked for is a mapping, and a cluster reads it by its fields. So
what is said here of a workload is said of where the fields of its manifest lead
(`Pulls`): every image has an init container, which is numbered by its place, no two
containers go by one name, the selector finds the pods of the template, and the
workload belongs into the namespace that was created for it.

Nothing of the images is lost on the way. Manifests that are equal, be it only by
value and in whatever order their fields stand, are those of the same images
(`images_of_same`): fields of one record that are the same stand under the same key
(`same_of_record`).
-/

namespace ImagePreload

/-! ## Fields of records -/

theorem record_field? (fields : List (String × Value)) (key : String) :
    (record fields).field? key = fields.lookup key := by
  induction fields with
  | nil => rfl
  | cons field fields ih =>
      obtain ⟨name, v⟩ := field
      rw [record, Value.field?, List.map_cons, Entries.get?, List.lookup_cons, Value.same_text]
      by_cases hkey : name = key
      · subst hkey
        simp
      · have hkey' : ¬ key = name := fun h => hkey h.symm
        rw [if_neg (by simpa using hkey), beq_eq_false_iff_ne.2 hkey']
        exact ih

theorem Value.mem_of_entriesIn {es others : Entries} (h : Value.entriesIn es others = true)
    {key v : Value} (mem : (key, v) ∈ es) :
    ∃ e ∈ others, key.same e.1 = true ∧ v.same e.2 = true := by
  induction es with
  | nil => cases mem
  | cons e es ih =>
      obtain ⟨k, w⟩ := e
      rw [Value.entriesIn, Bool.and_eq_true] at h
      rcases List.mem_cons.1 mem with heq | mem
      · cases heq
        obtain ⟨other, hmem, hsame⟩ := List.any_eq_true.1 h.1
        exact ⟨other, hmem, Bool.and_eq_true_iff.1 hsame⟩
      · exact ih h.2 mem

theorem lookup_eq_some_of_mem {fields : List (String × Value)} (nodup : (fields.map (·.1)).Nodup)
    {key : String} {v : Value} (mem : (key, v) ∈ fields) : fields.lookup key = some v := by
  induction fields with
  | nil => cases mem
  | cons field fields ih =>
      obtain ⟨name, w⟩ := field
      rw [List.map_cons, List.nodup_cons] at nodup
      rw [List.lookup_cons]
      rcases List.mem_cons.1 mem with heq | mem
      · cases heq
        rw [beq_self_eq_true]
      · have hne : key ≠ name := fun h => nodup.1 (h ▸ List.mem_map.2 ⟨_, mem, rfl⟩)
        rw [beq_eq_false_iff_ne.2 hne]
        exact ih nodup.2 mem

/-- Fields under one key of records that are the same are the same. -/
theorem same_of_record (key : String) {fields others : List (String × Value)} {v w : Value}
    (h : (record fields).same (record others) = true) (nodup : (others.map (·.1)).Nodup)
    (hv : fields.lookup key = some v) (hw : others.lookup key = some w) : v.same w = true := by
  rw [record, record, Value.same, Bool.and_eq_true] at h
  obtain ⟨before, after, rfl, -⟩ := List.lookup_eq_some_iff.1 hv
  obtain ⟨e, he, hkey, hsame⟩ := Value.mem_of_entriesIn h.2
    (List.mem_map.2 ⟨(key, v), List.mem_append_right _ List.mem_cons_self, rfl⟩)
  obtain ⟨⟨name, w'⟩, hw', rfl⟩ := List.mem_map.1 he
  obtain rfl : key = name := by simpa using hkey
  rw [lookup_eq_some_of_mem nodup hw', Option.some.injEq] at hw
  exact hw ▸ hsame

/-! ## Containers -/

theorem initName_injective : Function.Injective initName := fun _ _ h =>
  Nat.repr_inj.1 ((String.append_right_inj "container-").1 h)

theorem initName_ne_sleep (index : Nat) : initName index ≠ "sleep" := by
  intro h
  have hhead := congrArg (·.toList.head?) h
  simp [initName] at hhead

/-- The names of containers numbered from some index on, and of the one that waits. -/
theorem containerNames_nodup (index count : Nat) :
    ((List.range' index count).map initName ++ ["sleep"]).Nodup := by
  refine List.Nodup.append ((List.nodup_range' 1).map initName_injective)
    (List.nodup_singleton _) ?_
  intro name mem hsleep
  obtain ⟨i, -, rfl⟩ := List.mem_map.1 mem
  exact initName_ne_sleep i (List.mem_singleton.1 hsleep)

theorem initContainer_field? (index : Nat) (image : Value) :
    (initContainer index image).field? "name" = some (.text (initName index)) ∧
      (initContainer index image).field? "image" = some image ∧
      (initContainer index image).field? "command" =
        some (.list [.text "echo", .text ("init " ++ initName index ++ " completed")]) := by
  rw [initContainer, record_field?, record_field?, record_field?]
  exact ⟨rfl, rfl, rfl⟩

theorem pauseContainer_name : pauseContainer.field? "name" = some (.text "sleep") := by
  rw [pauseContainer, record_field?]
  rfl

variable (index : Nat) (images : List Value)

attribute [local simp] initContainersFrom

theorem initContainersFrom_getElem? (i : Nat) :
    (initContainersFrom index images)[i]? = images[i]?.map (initContainer (index + i)) := by
  induction images generalizing index i with
  | nil => rfl
  | cons image images ih =>
      cases i with
      | zero => rfl
      | succ i =>
          rw [initContainersFrom, List.getElem?_cons_succ, List.getElem?_cons_succ, ih]
          rw [Nat.add_assoc, Nat.add_comm 1 i]

theorem initContainersFrom_names :
    (initContainersFrom index images).map (·.field? "name") =
      (List.range' index images.length).map fun i => some (.text (initName i)) := by
  induction images generalizing index with
  | nil => rfl
  | cons image images ih =>
      rw [initContainersFrom, List.map_cons, ih, (initContainer_field? index image).1,
        List.length_cons, List.range'_succ, List.map_cons]

theorem initContainersFrom_images :
    (initContainersFrom index images).map (·.field? "image") = images.map some := by
  induction images generalizing index with
  | nil => rfl
  | cons image images ih =>
      rw [initContainersFrom, List.map_cons, ih, (initContainer_field? index image).2.1,
        List.map_cons]

/-- Containers that are the same pull the same images. -/
theorem images_of_sameItems {i j : Nat} {images others : List String}
    (h : Value.sameItems (initContainersFrom i (images.map .text))
      (initContainersFrom j (others.map .text)) = true) : images = others := by
  induction images generalizing i j others with
  | nil =>
      cases others with
      | nil => rfl
      | cons other others => simp [Value.sameItems] at h
  | cons image images ih =>
      cases others with
      | nil => simp [Value.sameItems] at h
      | cons other others =>
          rw [List.map_cons, List.map_cons, initContainersFrom, initContainersFrom,
            Value.sameItems, Bool.and_eq_true] at h
          have himage : (Value.text image).same (.text other) = true :=
            same_of_record "image" h.1 (by simp) rfl rfl
          rw [ih h.2, beq_iff_eq.1 ((Value.same_text image other).symm.trans himage)]

/-! ## Manifests -/

/-- A manifest of a workload that pulls some images on the nodes of some labels, by the init
containers of a pod with some other containers, in the namespace of some name. -/
structure Pulls (manifest : Value) (images : List String) (nodes : Entries) (place : String)
    (inits others : List Value) : Prop where
  inits_at : manifest.Leads ["spec", "template", "spec", "initContainers"] (.list inits)
  others_at : manifest.Leads ["spec", "template", "spec", "containers"] (.list others)
  images_eq : inits.map (·.field? "image") = images.map fun image => some (.text image)
  numbered : ∀ i (h : i < inits.length),
    inits[i].field? "name" = some (.text ("container-" ++ toString i)) ∧
      inits[i].field? "command" = some (.list [.text "echo",
        .text ("init container-" ++ toString i ++ " completed")])
  sleeps : others.map (·.field? "name") = [some (.text "sleep")]
  distinct : ∃ names : List String, names.Nodup ∧
    (inits ++ others).map (·.field? "name") = names.map fun name => some (.text name)
  selected : ∃ wanted labels : Entries,
    manifest.Leads ["spec", "selector", "matchLabels"] (.map wanted) ∧
      manifest.Leads ["spec", "template", "metadata", "labels"] (.map labels) ∧
      ∀ key v, wanted.get? key = some v → labels.get? key = some v
  nodes_at : manifest.Leads ["spec", "template", "spec", "nodeSelector"] (.map nodes)
  place_at : manifest.Leads ["metadata", "namespace"] (.text place)

theorem leads_of_fields {fields : List (String × Value)} {key : String} {keys : List String}
    {v w : Value} (found : fields.lookup key = some v) (rest : v.Leads keys w) :
    (record fields).Leads (key :: keys) w := by
  rw [Value.leads_iff, Value.at?, record_field?, found, Option.bind_some]
  exact Value.leads_iff.1 rest

variable (images : List String) (nodes : Entries) (place : String)

theorem workloadManifest_pulls :
    Pulls (workloadManifest (images.map .text) nodes (some (.text place))) images nodes place
      (initContainersFrom 0 (images.map .text)) [pauseContainer] where
  inits_at := leads_of_fields rfl (leads_of_fields rfl (leads_of_fields rfl
    (leads_of_fields rfl (.here _))))
  others_at := leads_of_fields rfl (leads_of_fields rfl (leads_of_fields rfl
    (leads_of_fields rfl (.here _))))
  images_eq := by rw [initContainersFrom_images, List.map_map]; rfl
  numbered := by
    intro i h
    have hi : (initContainersFrom 0 (images.map .text))[i]? = some _ := List.getElem?_eq_getElem h
    rw [initContainersFrom_getElem?, Nat.zero_add] at hi
    obtain ⟨image, -, himage⟩ := Option.map_eq_some_iff.1 hi
    rw [← himage]
    obtain ⟨hname, -, hcommand⟩ := initContainer_field? i image
    exact ⟨hname, hcommand⟩
  sleeps := by rw [List.map_singleton, pauseContainer_name]
  distinct := by
    refine ⟨_, containerNames_nodup 0 images.length, ?_⟩
    rw [List.map_append, initContainersFrom_names, List.map_append, List.map_map,
      List.length_map, List.map_singleton, pauseContainer_name]
    rfl
  selected := by
    refine ⟨_, _, leads_of_fields rfl (leads_of_fields rfl (leads_of_fields rfl (.here _))),
      leads_of_fields rfl (leads_of_fields rfl (leads_of_fields rfl (leads_of_fields rfl
        (.here _)))), fun key v h => h⟩
  nodes_at := leads_of_fields rfl (leads_of_fields rfl (leads_of_fields rfl
    (leads_of_fields rfl (.here _))))
  place_at := leads_of_fields rfl (leads_of_fields rfl (.here _))

/-- Manifests that are the same by value are of the same images. -/
theorem images_of_same {images others : List String} {nodes nodes' : Entries}
    {place place' : Option Value}
    (h : (workloadManifest (images.map .text) nodes place).same
      (workloadManifest (others.map .text) nodes' place') = true) : images = others := by
  have hspec := same_of_record "spec" h (by simp) rfl rfl
  have htemplate := same_of_record "template" hspec (by simp) rfl rfl
  have hpod := same_of_record "spec" htemplate (by simp) rfl rfl
  have hinits := same_of_record "initContainers" hpod (by simp) rfl rfl
  rw [Value.same] at hinits
  exact images_of_sameItems hinits

theorem entriesOrEmpty_map (entries : Entries) :
    (Value.map entries).entriesOrEmpty = .ok entries := by
  cases entries with
  | nil => rfl
  | cons e entries => rfl

/-! ## Runs -/

namespace PreLoader

variable {σ τ : Type} [Clock τ]

/-- The workload is what a job asks for right after its namespace was created, and it asks for
no other one. -/
theorem workload_sent {p : PreLoader τ} {job : Job τ} {answer : Answerer σ τ} {s found : σ}
    {now t : τ} {manifest : Value} {reply : Reply}
    (sent : .asked found t (.createWorkload manifest) reply ∈
      ((p.preloadImages job).course answer s now).steps) :
    ∃ images names after,
      ((job.extractImages p.render).course answer s now).outcome = some (.ok images) ∧
        .createWorkload manifest = p.loading job images ∧
        calls ((p.preloadImages job).course answer s now).steps =
          .asked s now (p.creation job) (.ok names) ::
            .asked found t (.createWorkload manifest) reply :: after := by
  have hmem := asked_mem_calls.2 sent
  cases p.preloadImages_went job answer s now with
  | unread extracted plain hc | nothing extracted plain hc =>
      rw [hc, plain.calls_eq] at hmem
      cases hmem
  | refused extracted foundSome hcreated plain hc =>
      rw [hc, plain.calls_eq, List.mem_singleton] at hmem
      injection hmem with _ _ hrequest
      cases hrequest
  | @created images names steps extracted foundSome hcreated plain hc =>
      have hcalls := p.fill_calls job images answer (answer.after (p.creation job) s)
        (answer.done (p.creation job) s now)
      rw [hc, plain.calls_precede, List.mem_cons] at hmem
      rw [hc, plain.calls_precede]
      rcases hmem with heq | hmem
      · injection heq with _ _ hrequest
        cases hrequest
      · rw [hcalls, List.mem_cons] at hmem
        rcases hmem with heq | hmem
        · rw [hcalls]
          injection heq with hfound ht hrequest hreply
          subst hfound ht
          rw [hrequest, hreply]
          exact ⟨images, names, _, extracted, rfl, rfl⟩
        · -- what follows are a sleep and the requests of a sweep
          exfalso
          split at hmem
          · rcases List.mem_cons.1 hmem with heq | hmem
            · cases heq
            · exact (Sweep.run_creates_none (mem_of_mem_calls hmem) manifest).2 rfl
          · split at hmem
            · exact (Sweep.run_creates_none (mem_of_mem_calls hmem) manifest).2 rfl
            · cases hmem

/-- The workload that a preloader creates pulls the images it is given, each in a container of
its own, on the nodes that are asked for; an absent selection of nodes is an empty one. A job
creates it for the images that were found, in the namespace that was created just before. No
two lists of images make manifests that are equal. -/
theorem preloadImages_workload (p : PreLoader τ) (job : Job τ) (answer : Answerer σ τ) (s : σ)
    (now : τ) :
    (∀ (images : List String) (nodes : Entries), ∃ manifest next inits others,
      p.createWorkload images nodes = .ask (.createWorkload manifest) next ∧
        Pulls manifest images nodes p.staging inits others) ∧
    (Value.null.entriesOrEmpty = .ok [] ∧
      ∀ nodes, (Value.map nodes).entriesOrEmpty = .ok nodes) ∧
    (∀ found t manifest reply,
      .asked found t (.createWorkload manifest) reply ∈
          ((p.preloadImages job).course answer s now).steps →
        ∃ images inits others place names after,
          ((job.extractImages p.render).course answer s now).outcome = some (.ok images) ∧
            Pulls manifest images job.nodeLabels p.staging inits others ∧
            calls ((p.preloadImages job).course answer s now).steps =
              .asked s now (.createNamespace place) (.ok names) ::
                .asked found t (.createWorkload manifest) reply :: after ∧
            place.Leads ["metadata", "name"] (.text p.staging)) ∧
    ∀ (images images' : List String) (nodes nodes' : Entries) (manifest manifest' : Value)
        (next next' : Reply → Program PreloadFailure τ Unit),
      p.createWorkload images nodes = .ask (.createWorkload manifest) next →
        p.createWorkload images' nodes' = .ask (.createWorkload manifest') next' →
        manifest = manifest' ∨ manifest.same manifest' = true → images = images' := by
  refine ⟨fun images nodes => ?_, ⟨rfl, entriesOrEmpty_map⟩, fun found t manifest reply sent => ?_,
    fun images images' nodes nodes' manifest manifest' next next' h h' hsame => ?_⟩
  · exact ⟨_, _, _, _, rfl, workloadManifest_pulls images nodes p.staging⟩
  · obtain ⟨images, names, after, hextracted, hrequest, hcalls⟩ := workload_sent sent
    cases hrequest
    exact ⟨images, _, _, _, names, after, hextracted,
      workloadManifest_pulls images job.nodeLabels p.staging, hcalls,
      leads_of_fields rfl (leads_of_fields rfl (.here _))⟩
  · injection h with hmanifest
    injection h' with hmanifest'
    injection hmanifest with hmanifest
    injection hmanifest' with hmanifest'
    subst hmanifest hmanifest'
    rcases hsame with heq | hsame
    · have hinits := (workloadManifest_pulls images nodes p.staging).inits_at.unique
        (heq ▸ (workloadManifest_pulls images' nodes' p.staging).inits_at)
      have himages := congrArg (List.map (·.field? "image")) (Value.list.inj hinits)
      rw [initContainersFrom_images, initContainersFrom_images] at himages
      exact List.map_injective_iff.2 (fun _ _ h => Value.text.inj h)
        (List.map_injective_iff.2 (Option.some_injective _) himages)
    · exact images_of_same hsame

end PreLoader

/-- A job with a container of no image between two of the same. -/
def patchyJob : Job ℚ :=
  { podJob with
    objects := [⟨"deployment.yml", .text ("kind: Deployment\nspec:\n  template:\n    spec:\n"
      ++ "      containers:\n      - image: a\n      - name: b\n      - image: a\n"),
      .null, .int 1⟩]
    nodeLabels := [(.text "disk", .text "ssd")] }

def Step.isWorkload {σ τ : Type} : Step σ τ → Bool
  | .asked _ _ (.createWorkload _) _ => true
  | _ => false

theorem preloadImages_workload_patchy :
    ∃ found t manifest reply inits others,
      .asked found t (.createWorkload manifest) reply ∈
          ((podLoader.preloadImages patchyJob).course Script.answer lostScript 0).steps ∧
        Pulls manifest ["a", "", "a"] [(.text "disk", .text "ssd")] stagingName inits others := by
  -- both runs read the same document, which is done once
  have hrun : ((podLoader.preloadImages patchyJob).course Script.answer lostScript 0).steps.any
        Step.isWorkload = true ∧
      ((patchyJob.extractImages podLoader.render).course Script.answer lostScript 0).outcome.map
        Except.toOption = some (some ["a", "", "a"]) := by decide +kernel
  have hextracted := eq_ok_of_toOption hrun.2
  obtain ⟨step, hmem, hstep⟩ := List.any_eq_true.1 hrun.1
  unfold Step.isWorkload at hstep
  split at hstep
  · next found t manifest reply =>
      obtain ⟨images, inits, others, _, _, _, hfound, hpulls, -⟩ :=
        (PreLoader.preloadImages_workload podLoader patchyJob Script.answer lostScript
          0).2.2.1 found t manifest reply hmem
      cases hextracted.symm.trans hfound
      exact ⟨found, t, manifest, reply, inits, others, hmem, hpulls⟩
  · cases hstep

end ImagePreload
