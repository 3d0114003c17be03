import ImagePreload.Proofs.DocumentImages
import ImagePreload.Proofs.ExitCodes

/-!
# Finding the images of a job

An object either gives images or fails, and it does one of the two
(`ObjectDefinition.gives_or_fails`): it fails if its template cannot be rendered or
the text is no document, else it gives the images of the kind that the document
declares, or none if it declares no kind at all.

The objects of a job are taken in order. If all of them give images, these are put
one behind the other (`imagesFrom_of_gives`). Else the first that fails ends it with
its own failure (`imagesFrom_of_stopsAt`), and what stands behind it is not so much as
looked at: it might as well be something else, and be rendered in another way
(`extractFrom_append_congr`).
-/

namespace ImagePreload

variable {σ τ : Type}

/-! ## The kind of a document -/

namespace WorkloadKind

theorem ofValue?_eq_some_iff {v : Value} {kind : WorkloadKind} :
    ofValue? v = some kind ↔ v = .text kind.name := by
  constructor
  · intro h
    unfold ofValue? at h
    split at h
    · next s =>
        have hname : kind.name = s := by simpa using List.find?_some h
        rw [hname]
    · cases h
  · rintro rfl
    cases kind <;> decide

theorem ofDocument?_eq_some_iff {document : Value} {kind : WorkloadKind} :
    ofDocument? document = some kind ↔ document.Leads ["kind"] (.text kind.name) := by
  rw [ofDocument?, Value.leads_iff, Option.bind_eq_some_iff, Value.at?]
  simp only [ofValue?_eq_some_iff, Value.at?, Option.bind_eq_some_iff]
  constructor
  · rintro ⟨v, hfield, rfl⟩
    exact ⟨_, hfield, rfl⟩
  · rintro ⟨v, hfield, hv⟩
    exact ⟨v, hfield, Option.some.inj hv⟩

end WorkloadKind

/-! ## One object -/

namespace ObjectDefinition

variable (render : Renderer) (functions : Value)

/-- The images that an object gives: those of the kind that its document declares, none
if it declares no kind. -/
inductive Gives (o : ObjectDefinition) : List String → Prop where
  | images {text : String} {document : Value} {kind : WorkloadKind}
    (rendered : render o.source o.inputs functions = .ok text)
    (loaded : Yaml.load text = .ok document)
    (declared : document.Leads ["kind"] (.text kind.name)) : Gives o (kind.images document)
  | nothing {text : String} {document : Value}
    (rendered : render o.source o.inputs functions = .ok text)
    (loaded : Yaml.load text = .ok document)
    (undeclared : ∀ kind : WorkloadKind, ¬ document.Leads ["kind"] (.text kind.name)) : Gives o []

/-- What an object fails with: its template cannot be rendered, or its text is no
document. -/
inductive FailsWith (o : ObjectDefinition) : RenderCause → Prop where
  | unrendered {e : Template.TemplateError}
    (refused : render o.source o.inputs functions = .error e) : FailsWith o (.template e)
  | unread {text : String} {e : Yaml.LoadError}
    (rendered : render o.source o.inputs functions = .ok text)
    (refused : Yaml.load text = .error e) : FailsWith o (.document e)

variable {render functions} {o : ObjectDefinition}

theorem document_eq_ok_iff {document : Value} : o.document render functions = .ok document ↔
    ∃ text, render o.source o.inputs functions = .ok text ∧ Yaml.load text = .ok document := by
  rw [ObjectDefinition.document, bind_eq_ok]
  simp only [mapError_eq_ok]

theorem document_of_failsWith {cause : RenderCause} (h : o.FailsWith render functions cause) :
    o.document render functions = .error cause := by
  cases h with
  | unrendered refused =>
      rw [ObjectDefinition.document, refused]
      rfl
  | unread rendered refused =>
      rw [ObjectDefinition.document, rendered]
      show (Yaml.load _).mapError _ = _
      rw [refused]
      rfl

theorem failsWith_of_document {cause : RenderCause}
    (h : o.document render functions = .error cause) : o.FailsWith render functions cause := by
  rcases bind_eq_error h with h | ⟨text, hrendered, h⟩
  · obtain ⟨e, hrefused, rfl⟩ := mapError_eq_error h
    exact .unrendered hrefused
  · obtain ⟨e, hrefused, rfl⟩ := mapError_eq_error h
    exact .unread (mapError_eq_ok.1 hrendered) hrefused

theorem gives_or_fails (o : ObjectDefinition) :
    (∃ images, o.Gives render functions images) ∨ ∃ cause, o.FailsWith render functions cause := by
  cases hdocument : o.document render functions with
  | error cause => exact Or.inr ⟨cause, failsWith_of_document hdocument⟩
  | ok document =>
      obtain ⟨text, hrendered, hloaded⟩ := document_eq_ok_iff.1 hdocument
      refine Or.inl ?_
      by_cases hkind : ∃ kind : WorkloadKind, document.Leads ["kind"] (.text kind.name)
      · obtain ⟨kind, hkind⟩ := hkind
        exact ⟨_, .images hrendered hloaded hkind⟩
      · exact ⟨_, .nothing hrendered hloaded (not_exists.1 hkind)⟩

/-- The images among what was found in an object. -/
def imagesOf : Option (WorkloadKind × List String) → List String
  | none => []
  | some (_, images) => images

theorem images?_of_failsWith {cause : RenderCause} (h : o.FailsWith render functions cause) :
    o.images? render functions = .error (.render o.template cause) := by
  rw [images?, document_of_failsWith h]
  rfl

theorem images?_of_document {document : Value} (h : o.document render functions = .ok document) :
    o.images? render functions =
      match WorkloadKind.ofDocument? document with
      | none => .ok none
      | some kind =>
        if kind.hasLongImage document then .error .longImage
        else .ok (some (kind, kind.images document)) := by
  rw [images?, h]
  rfl

theorem images?_of_unwritten (h : o.Unwritten render functions) :
    o.images? render functions = .error .longImage := by
  obtain ⟨document, kind, hdocument, hkind, hlong⟩ := h
  rw [images?_of_document hdocument, hkind]
  exact if_pos hlong

theorem images?_of_gives {images : List String} (h : o.Gives render functions images)
    (written : ¬ o.Unwritten render functions) :
    ∃ found, o.images? render functions = .ok found ∧ imagesOf found = images := by
  cases h with
  | @images text document kind rendered loaded declared =>
      have hdocument := document_eq_ok_iff.2 ⟨text, rendered, loaded⟩
      have hkind := WorkloadKind.ofDocument?_eq_some_iff.2 declared
      have hshort : ¬ kind.hasLongImage document = true :=
        fun hlong => written ⟨document, kind, hdocument, hkind, hlong⟩
      refine ⟨some (kind, kind.images document), ?_, rfl⟩
      rw [images?_of_document hdocument, hkind]
      exact if_neg hshort
  | @nothing text document rendered loaded undeclared =>
      have hdocument := document_eq_ok_iff.2 ⟨text, rendered, loaded⟩
      have hkind : WorkloadKind.ofDocument? document = none :=
        Option.eq_none_iff_forall_ne_some.2 fun kind h =>
          undeclared kind (WorkloadKind.ofDocument?_eq_some_iff.1 h)
      refine ⟨none, ?_, rfl⟩
      rw [images?_of_document hdocument, hkind]

theorem images?_congr {render' : Renderer}
    (h : render' o.source o.inputs functions = render o.source o.inputs functions) :
    o.images? render' functions = o.images? render functions := by
  rw [images?, images?, ObjectDefinition.document, ObjectDefinition.document, h]

end ObjectDefinition

/-! ## Objects in order -/

section

open ObjectDefinition

variable {render : Renderer} {functions : Value}

theorem imagesFrom_cons (o : ObjectDefinition) (rest : List ObjectDefinition) :
    imagesFrom render functions (o :: rest) = do
      let found ← o.images? render functions
      let more ← imagesFrom render functions rest
      return imagesOf found ++ more := by
  rw [imagesFrom]
  cases o.images? render functions with
  | error e => rfl
  | ok found =>
      cases found with
      | none => exact (bind_pure _).symm
      | some found => rfl

theorem imagesFrom_append (objects others : List ObjectDefinition) :
    imagesFrom render functions (objects ++ others) = do
      let images ← imagesFrom render functions objects
      let more ← imagesFrom render functions others
      return images ++ more := by
  induction objects with
  | nil => exact (bind_pure _).symm
  | cons o objects ih =>
      simp only [List.cons_append, imagesFrom_cons, ih, bind_assoc, pure_bind, List.append_assoc]

/-- An object at which finding the images ends: all before it give some, and it fails. -/
structure StopsAt (render : Renderer) (functions : Value) (before : List ObjectDefinition)
    (o : ObjectDefinition) (cause : RenderCause) : Prop where
  gives : ∀ o' ∈ before, ∃ images, o'.Gives render functions images
  fails : o.FailsWith render functions cause

/-- The images of objects that all give some are those that they give, in their order. -/
theorem imagesFrom_of_gives {objects : List ObjectDefinition} {found : List (List String)}
    (gives : List.Forall₂ (Gives render functions) objects found)
    (written : ∀ o ∈ objects, ¬ o.Unwritten render functions) :
    imagesFrom render functions objects = .ok found.flatten := by
  induction gives with
  | nil => rfl
  | @cons o images objects found hgives _ ih =>
      obtain ⟨hwritten, hrest⟩ := List.forall_mem_cons.1 written
      obtain ⟨own, hown, rfl⟩ := images?_of_gives hgives hwritten
      rw [imagesFrom_cons, hown, ih hrest]
      rfl

/-- The first object that fails decides, whatever stands behind it. -/
theorem imagesFrom_of_stopsAt {before after : List ObjectDefinition} {o : ObjectDefinition}
    {cause : RenderCause} (stops : StopsAt render functions before o cause)
    (written : ∀ o' ∈ before, ¬ o'.Unwritten render functions) :
    imagesFrom render functions (before ++ o :: after) = .error (.render o.template cause) := by
  obtain ⟨gives, fails⟩ := stops
  induction before with
  | nil =>
      rw [List.nil_append, imagesFrom_cons, images?_of_failsWith fails]
      rfl
  | cons first before ih =>
      obtain ⟨⟨images, hgives⟩, hgiven⟩ := List.forall_mem_cons.1 gives
      obtain ⟨hwritten, hrest⟩ := List.forall_mem_cons.1 written
      obtain ⟨own, hown, -⟩ := images?_of_gives hgives hwritten
      rw [List.cons_append, imagesFrom_cons, hown, ih hrest hgiven]
      rfl

/-- Of some objects all give images, or there is a first that fails. -/
theorem all_give_or_stopsAt (render : Renderer) (functions : Value)
    (objects : List ObjectDefinition) :
    (∃ found, List.Forall₂ (Gives render functions) objects found) ∨
      ∃ before o after cause, objects = before ++ o :: after ∧
        StopsAt render functions before o cause := by
  induction objects with
  | nil => exact Or.inl ⟨[], .nil⟩
  | cons o rest ih =>
      rcases o.gives_or_fails with ⟨images, hgives⟩ | ⟨cause, hfails⟩
      · rcases ih with ⟨found, hall⟩ | ⟨before, failing, after, cause, rfl, hbefore, hfails⟩
        · exact Or.inl ⟨images :: found, .cons hgives hall⟩
        · exact Or.inr ⟨o :: before, failing, after, cause, rfl,
            List.forall_mem_cons.2 ⟨⟨images, hgives⟩, hbefore⟩, hfails⟩
      · exact Or.inr ⟨[], o, rest, cause, rfl, nofun, hfails⟩

/-- Objects that are rendered alike go the same way up to what follows them. -/
theorem extractFrom_append_congr {render' : Renderer}
    {objects others others' : List ObjectDefinition}
    (alike : ∀ o ∈ objects, render' o.source o.inputs functions =
      render o.source o.inputs functions)
    (rest : (extractFrom render' functions others' : Program PreloadFailure τ (List String)) =
      extractFrom render functions others) :
    (extractFrom render' functions (objects ++ others') :
        Program PreloadFailure τ (List String)) =
      extractFrom render functions (objects ++ others) := by
  induction objects with
  | nil => exact rest
  | cons o objects ih =>
      obtain ⟨hfirst, halike⟩ := List.forall_mem_cons.1 alike
      rw [List.cons_append, List.cons_append, extractFrom, extractFrom, images?_congr hfirst,
        ih halike]

theorem extractFrom_congr {render' : Renderer} {objects : List ObjectDefinition}
    (alike : ∀ o ∈ objects, render' o.source o.inputs functions =
      render o.source o.inputs functions) :
    (extractFrom render' functions objects : Program PreloadFailure τ (List String)) =
      extractFrom render functions objects := by
  rw [← List.append_nil objects]
  exact extractFrom_append_congr alike rfl

end

variable [Clock τ]

namespace Job

theorem extractImages_outcome (render : Renderer) (job : Job τ) (answer : Answerer σ τ) (s : σ)
    (now : τ) :
    ((job.extractImages render).course answer s now).outcome = some (job.images render) := by
  obtain ⟨notes, hcourse, -⟩ := (job.extractImages_yields render).course answer s now
  rw [hcourse]

/-- The images of a job, if those that are found can be written. Nothing is asked of the
cluster and no time passes. Either every object gives images, and the images of the job
are those of its objects in order, repeated ones too. Or there is a first object that
fails, and its failure, under the name of its template, is that of the job; then no
object behind it is looked at, and neither are other ways to render it. The images of
objects before others come before those of the others. -/
theorem extractImages_stops_first (render : Renderer) (job : Job τ)
    (written : ∀ o ∈ job.objects, ¬ o.Unwritten render job.functions) (answer : Answerer σ τ)
    (s : σ) (now : τ) :
    let c := (job.extractImages render).course answer s now
    (calls c.steps = [] ∧ c.state = s ∧ c.now = now) ∧
    (∀ found, List.Forall₂ (ObjectDefinition.Gives render job.functions) job.objects found →
      c.outcome = some (.ok found.flatten)) ∧
    (∀ before o after cause, job.objects = before ++ o :: after →
      StopsAt render job.functions before o cause →
      c.outcome = some (.error (.render o.template cause)) ∧
        ∀ (render' : Renderer) (others : List ObjectDefinition),
          (∀ o' ∈ before ++ [o], render' o'.source o'.inputs job.functions =
            render o'.source o'.inputs job.functions) →
          ({ job with objects := before ++ o :: others }.extractImages render' :
            Program PreloadFailure τ (List String)) = job.extractImages render) ∧
    ((∃ found, List.Forall₂ (ObjectDefinition.Gives render job.functions) job.objects found) ∨
      ∃ before o after cause, job.objects = before ++ o :: after ∧
        StopsAt render job.functions before o cause) ∧
    (∀ e, c.outcome = some (.error e) → e.kind = .own .render) ∧
    ∀ objects others images, job.objects = objects ++ others → c.outcome = some (.ok images) →
      ∃ front back,
        (({ job with objects }.extractImages render).course answer s now).outcome =
          some (.ok front) ∧
        (({ job with objects := others }.extractImages render).course answer s now).outcome =
          some (.ok back) ∧
        images = front ++ back := by
  intro c
  obtain ⟨notes, hcourse, hplain⟩ := (job.extractImages_yields render).course answer s now
  have houtcome : c.outcome = some (job.images render) := congrArg Course.outcome hcourse
  have hall (found : List (List String))
      (gives : List.Forall₂ (ObjectDefinition.Gives render job.functions) job.objects found) :
      job.images render = .ok found.flatten := imagesFrom_of_gives gives written
  have hstops {before after : List ObjectDefinition} {o : ObjectDefinition} {cause : RenderCause}
      (hobjects : job.objects = before ++ o :: after)
      (stops : StopsAt render job.functions before o cause) :
      job.images render = .error (.render o.template cause) := by
    rw [Job.images, hobjects]
    exact imagesFrom_of_stopsAt stops fun o' ho' =>
      written o' (hobjects ▸ List.mem_append_left _ ho')
  refine ⟨?_, fun found gives => ?_, fun before o after cause hobjects stops => ⟨?_, ?_⟩,
    all_give_or_stopsAt render job.functions job.objects, fun e he => ?_,
    fun objects others images hobjects hok => ?_⟩
  · rw [show c = _ from hcourse]
    exact ⟨hplain.calls_eq, rfl, rfl⟩
  · rw [houtcome, hall found gives]
  · rw [houtcome, hstops hobjects stops]
  · intro render' others alike
    -- Equal programs, not only equal outcomes: what stands behind `o` does not occur in them.
    obtain ⟨hbefore, hlast⟩ := List.forall_mem_append.1 alike
    have hfails := ObjectDefinition.images?_of_failsWith stops.fails
    rw [Job.extractImages, Job.extractImages, hobjects]
    refine extractFrom_append_congr hbefore ?_
    rw [extractFrom, extractFrom, ObjectDefinition.images?_congr (hlast o List.mem_cons_self),
      hfails]
  · have himages : job.images render = .error e := Option.some.inj (houtcome.symm.trans he)
    rcases all_give_or_stopsAt render job.functions job.objects with
      ⟨found, gives⟩ | ⟨before, o, after, cause, hobjects, stops⟩
    · cases himages.symm.trans (hall found gives)
    · cases himages.symm.trans (hstops hobjects stops)
      rfl
  · rw [houtcome, Job.images, hobjects, imagesFrom_append, Option.some.injEq, bind_eq_ok] at hok
    obtain ⟨front, hfront, hok⟩ := hok
    obtain ⟨back, hback, hok⟩ := bind_eq_ok.1 hok
    cases hok
    exact ⟨front, back, ({ job with objects }.extractImages_outcome render answer s now).trans
      (congrArg some hfront),
      ({ job with objects := others }.extractImages_outcome render answer s now).trans
        (congrArg some hback), rfl⟩

end Job

/-- An object without images. -/
def mapObject : ObjectDefinition := ⟨"map.yml", .text "kind: ConfigMap\n", .null, .int 1⟩

/-- An object whose text is no document. -/
def brokenObject : ObjectDefinition := ⟨"broken.yml", .text "kind: [", .null, .int 1⟩

def brokenJob : Job ℚ :=
  { podJob with objects := podJob.objects ++ mapObject :: brokenObject :: podJob.objects }

/-- Whether the images of an object are looked for in vain because one cannot be written. -/
def isUnwritten (render : Renderer) (functions : Value) (o : ObjectDefinition) : Bool :=
  match o.images? render functions with
  | .error .longImage => true
  | _ => false

theorem extractImages_stops_first_broken :
    (∀ o ∈ brokenJob.objects, ¬ o.Unwritten podLoader.render brokenJob.functions) ∧
      ∃ cause, StopsAt podLoader.render brokenJob.functions (podJob.objects ++ [mapObject])
          brokenObject cause ∧
        ((brokenJob.extractImages podLoader.render).course Script.answer lostScript 0).outcome =
          some (.error (.render "broken.yml" cause)) := by
  have hwritten : ∀ o ∈ brokenJob.objects,
      isUnwritten podLoader.render brokenJob.functions o = false := by decide +kernel
  have written : ∀ o ∈ brokenJob.objects, ¬ o.Unwritten podLoader.render brokenJob.functions := by
    intro o ho hlong
    have hshort := hwritten o ho
    rw [isUnwritten, ObjectDefinition.images?_of_unwritten hlong] at hshort
    cases hshort
  have hgives : ∀ o ∈ podJob.objects ++ [mapObject],
      (o.images? podLoader.render brokenJob.functions).toOption.isSome = true := by decide +kernel
  have hfails : (brokenObject.images? podLoader.render brokenJob.functions).toOption = none :=
    Option.eq_none_of_isNone (by decide +kernel)
  have gives : ∀ o ∈ podJob.objects ++ [mapObject],
      ∃ images, o.Gives podLoader.render brokenJob.functions images := by
    intro o ho
    rcases o.gives_or_fails with hgiven | ⟨cause, hfailed⟩
    · exact hgiven
    · have hsome := hgives o ho
      rw [ObjectDefinition.images?_of_failsWith hfailed] at hsome
      cases hsome
  rcases brokenObject.gives_or_fails with ⟨images, hgiven⟩ | ⟨cause, hfailed⟩
  · obtain ⟨found, hfound, -⟩ :=
      ObjectDefinition.images?_of_gives hgiven (written brokenObject
        (List.mem_append_right _ (List.mem_cons_of_mem _ List.mem_cons_self)))
    rw [hfound] at hfails
    cases hfails
  · have stops : StopsAt podLoader.render brokenJob.functions (podJob.objects ++ [mapObject])
        brokenObject cause := ⟨gives, hfailed⟩
    exact ⟨written, cause, stops, ((brokenJob.extractImages_stops_first podLoader.render written
      Script.answer lostScript 0).2.2.1 _ _ podJob.objects _ rfl stops).1⟩

end ImagePreload
