import ContractSchema.Codec.Value
import ContractSchema.Form.Basic
import ContractSchema.Proofs.Steps

/-!
# What rendered forms can do

A form is rendered once the parts it needs are there, and it is submitted through the method
it carries. Rendering asks for documents and for schemas, while a call through the method
asks for schemas only (`ContractSchema.LacksSchema`). So the schema of everything a form shows
or lets the user enter should have been asked for.

A toolkit is handed a complete form of one of three sorts
(`ContractSchema.CompleteForm`), and all it can do is to present this form
(`ContractSchema.EntrypointForm.render_eq`). Rendering fails for one reason only: a part that
is asked for is not there (`ContractSchema.EntrypointForm.render_eq_error_iff`). One part is
never asked for, the schema of what an entrypoint takes that is called without a
transaction; a form with a document for it is rendered without the schema, and what the user
enters cannot be sent (`ContractSchema.rendered_forms_submittable`).
-/

namespace ContractSchema

/-! ### Complete forms -/

/-- **A complete form** of one of the three sorts. -/
inductive CompleteForm
  /-- A form that creates an instance. -/
  | init (form : InitForm)
  /-- A form that changes the state. -/
  | update (form : UpdateForm)
  /-- A form that asks. -/
  | invoke (form : InvokeForm)

namespace CompleteForm

/-- The document of what the user enters, if the form carries one. -/
def requestDocument? : CompleteForm → Option FormDocument
  | .init form => some form.requestDocument
  | .update form => some form.requestDocument
  | .invoke form => form.requestDocument

/-- The document of what is returned, if the form carries one. -/
def responseDocument? : CompleteForm → Option FormDocument
  | .init _ => none
  | .update _ => none
  | .invoke form => some form.responseDocument

end CompleteForm

namespace FormRenderer

/-- What a toolkit shows for a complete form. -/
def present {Output : Type} (renderer : FormRenderer Output) : CompleteForm → Output
  | .init form => renderer.initForm form
  | .update form => renderer.updateForm form
  | .invoke form => renderer.invokeForm form

/-- The toolkit that shows forms as they are handed over. -/
def asHanded : FormRenderer CompleteForm :=
  ⟨.init, .update, .invoke⟩

theorem present_asHanded (complete : CompleteForm) : asHanded.present complete = complete := by
  cases complete with
  | init => rfl
  | update => rfl
  | invoke => rfl

end FormRenderer

/-! ### Calls without a schema -/

/-- A call has failed because the method has no schema of some kind. -/
def LacksSchema {Error α : Type} (result : Except (BindingError Error) α) : Prop :=
  ∃ method kind, result = .error (.noSchema method kind)

section Calls

variable {Value Error α : Type} (codec : SchemaCodec Value Error)

theorem not_lacksSchema_mapError (result : Except Error α) :
    ¬LacksSchema (result.mapError BindingError.codec) := by
  rintro ⟨method, kind, h⟩
  obtain ⟨error, -, h⟩ := mapError_eq_error_iff.mp h
  cases h

theorem InitMethod.lacksSchema_encodeRequest_iff (method : InitMethod) (value : Value) :
    LacksSchema (method.encodeRequest codec value) ↔ method.request = none := by
  rw [encodeRequest]
  rcases method.request with _ | schema
  · exact iff_of_true ⟨_, _, rfl⟩ rfl
  · exact iff_of_false (not_lacksSchema_mapError _) (by simp)

theorem ReceiveMethod.lacksSchema_require_iff (method : ReceiveMethod) (kind : SchemaKind)
    (call : SchemaBlob → Except Error α) :
    LacksSchema (method.require kind >>= fun schema => (call schema).mapError .codec) ↔
      method.schema? kind = none := by
  rw [require]
  rcases method.schema? kind with _ | schema
  · exact iff_of_true ⟨_, _, rfl⟩ rfl
  · exact iff_of_false (not_lacksSchema_mapError _) (by simp)

theorem ReceiveMethod.lacksSchema_encodeRequest_iff (method : ReceiveMethod) (value : Value) :
    LacksSchema (method.encodeRequest codec value) ↔ method.request = none :=
  method.lacksSchema_require_iff .request fun schema => codec.encode schema value

theorem ReceiveMethod.lacksSchema_decodeResponse_iff (method : ReceiveMethod)
    (data : List UInt8) :
    LacksSchema (method.decodeResponse codec data) ↔ method.response = none :=
  method.lacksSchema_require_iff .response fun schema => codec.decode schema data

end Calls

/-! ### Rendering -/

namespace EntrypointForm

variable {Output : Type} {form : EntrypointForm} {options : FormOptions}

/-- **A part a form is asked for and has not got.** Documents are looked for before
schemas. -/
inductive Lacks (form : EntrypointForm) : FormPart → Prop
  /-- A form that changes the state has no document of what it takes. -/
  | requestDocument (hkind : form.kind = .update) (hdocument : form.requestDocument = none) :
      Lacks form .requestDocument
  /-- A form that changes the state has such a document, but no schema. -/
  | request (hkind : form.kind = .update) (hdocument : form.requestDocument.isSome)
      (hrequest : form.method.request = none) : Lacks form .request
  /-- A form that asks has no document of what is returned. -/
  | responseDocument (hkind : form.kind = .invoke) (hdocument : form.responseDocument = none) :
      Lacks form .responseDocument
  /-- A form that asks has such a document, but no schema. -/
  | response (hkind : form.kind = .invoke) (hdocument : form.responseDocument.isSome)
      (hresponse : form.method.response = none) : Lacks form .response

/-- **The complete form** which a form becomes. -/
inductive Becomes (form : EntrypointForm) (options : FormOptions) : CompleteForm → Prop
  /-- A form that changes the state, with a document and the schema for it. -/
  | update {document : FormDocument} {request : SchemaBlob} (hkind : form.kind = .update)
      (hdocument : form.requestDocument = some document)
      (hrequest : form.method.request = some request) :
      Becomes form options (.update ⟨form.method, document, request, options⟩)
  /-- A form that asks, with a document of what is returned and the schema for it. Whatever
  there is for what is entered goes with it. -/
  | invoke {document : FormDocument} {response : SchemaBlob} (hkind : form.kind = .invoke)
      (hdocument : form.responseDocument = some document)
      (hresponse : form.method.response = some response) :
      Becomes form options (.invoke ⟨form.method, form.requestDocument, form.method.request,
        document, response, options⟩)

theorem render_of_lacks {part : FormPart} (h : form.Lacks part) (renderer : FormRenderer Output)
    (options : FormOptions) :
    form.render renderer options = .error (.missingPart form.method.receiveName part) := by
  rw [render]
  cases h with
  | requestDocument hkind hdocument =>
    rw [hkind, hdocument]
    rfl
  | request hkind hdocument hrequest =>
    obtain ⟨document, hdocument⟩ := Option.isSome_iff_exists.mp hdocument
    rw [hkind, hdocument, hrequest]
    rfl
  | responseDocument hkind hdocument =>
    rw [hkind, hdocument]
    rfl
  | response hkind hdocument hresponse =>
    obtain ⟨document, hdocument⟩ := Option.isSome_iff_exists.mp hdocument
    rw [hkind, hdocument, hresponse]
    rfl

theorem render_of_becomes {complete : CompleteForm} (h : form.Becomes options complete)
    (renderer : FormRenderer Output) :
    form.render renderer options = .ok (renderer.present complete) := by
  rw [render]
  cases h with
  | update hkind hdocument hrequest =>
    rw [hkind, hdocument, hrequest]
    rfl
  | invoke hkind hdocument hresponse =>
    rw [hkind, hdocument, hresponse]
    rfl

/-- Either a part is lacking, or the form is complete. -/
theorem lacks_or_becomes (form : EntrypointForm) (options : FormOptions) :
    (∃ part, form.Lacks part) ∨ ∃ complete, form.Becomes options complete := by
  cases hkind : form.kind with
  | update =>
    rcases hdocument : form.requestDocument with _ | document
    · exact Or.inl ⟨_, .requestDocument hkind hdocument⟩
    · rcases hrequest : form.method.request with _ | request
      · exact Or.inl ⟨_, .request hkind (by rw [hdocument]; rfl) hrequest⟩
      · exact Or.inr ⟨_, .update hkind hdocument hrequest⟩
  | invoke =>
    rcases hdocument : form.responseDocument with _ | document
    · exact Or.inl ⟨_, .responseDocument hkind hdocument⟩
    · rcases hresponse : form.method.response with _ | response
      · exact Or.inl ⟨_, .response hkind (by rw [hdocument]; rfl) hresponse⟩
      · exact Or.inr ⟨_, .invoke hkind hdocument hresponse⟩

/-- **A toolkit presents the form it is handed**, and nothing else. -/
theorem render_eq (form : EntrypointForm) (renderer : FormRenderer Output)
    (options : FormOptions) :
    form.render renderer options = (form.render .asHanded options).map renderer.present := by
  rcases form.lacks_or_becomes options with ⟨part, hlacks⟩ | ⟨complete, hbecomes⟩
  · rw [render_of_lacks hlacks, render_of_lacks hlacks]
    rfl
  · rw [render_of_becomes hbecomes, render_of_becomes hbecomes, FormRenderer.present_asHanded]
    rfl

theorem becomes_of_render {complete : CompleteForm}
    (h : form.render .asHanded options = .ok complete) : form.Becomes options complete := by
  rcases form.lacks_or_becomes options with ⟨part, hlacks⟩ | ⟨other, hbecomes⟩
  · rw [render_of_lacks hlacks] at h
    cases h
  · rw [render_of_becomes hbecomes, FormRenderer.present_asHanded] at h
    obtain rfl := Except.ok.inj h
    exact hbecomes

/-- **Rendering fails** only if a part is lacking, which is reported. -/
theorem render_eq_error_iff (renderer : FormRenderer Output) {error : FormError} :
    form.render renderer options = .error error ↔
      ∃ part, form.Lacks part ∧ error = .missingPart form.method.receiveName part := by
  constructor
  · intro h
    rcases form.lacks_or_becomes options with ⟨part, hlacks⟩ | ⟨complete, hbecomes⟩
    · rw [render_of_lacks hlacks] at h
      exact ⟨part, hlacks, (Except.error.inj h).symm⟩
    · rw [render_of_becomes hbecomes] at h
      cases h
  · rintro ⟨part, hlacks, rfl⟩
    exact render_of_lacks hlacks renderer options

/-! ### Submitting -/

section Submitting

variable {Value Error : Type} {complete : CompleteForm}

/-- **What the user enters** can be sent, unless the form asks and its method has no schema
for it. -/
theorem Becomes.lacksSchema_encodeRequest_iff (h : form.Becomes options complete)
    (codec : SchemaCodec Value Error) (value : Value) :
    LacksSchema (form.method.encodeRequest codec value) ↔
      form.kind = .invoke ∧ form.method.request = none := by
  rw [ReceiveMethod.lacksSchema_encodeRequest_iff]
  cases h with
  | update hkind hdocument hrequest => simp [hkind, hrequest]
  | invoke hkind hdocument hresponse => simp [hkind]

/-- What is returned can be shown. -/
theorem Becomes.not_lacksSchema_decodeResponse (h : form.Becomes options complete)
    (hshown : complete.responseDocument?.isSome) (codec : SchemaCodec Value Error)
    (data : List UInt8) : ¬LacksSchema (form.method.decodeResponse codec data) := by
  rw [ReceiveMethod.lacksSchema_decodeResponse_iff]
  cases h with
  | update hkind hdocument hrequest => cases hshown
  | invoke hkind hdocument hresponse => simp [hresponse]

end Submitting

end EntrypointForm

namespace ContractForms

variable {Output : Type}

theorem renderInit_of_none {forms : ContractForms} (h : forms.bindings.init.request = none)
    (renderer : FormRenderer Output) (options : FormOptions) :
    forms.renderInit renderer options =
      .error (.missingPart forms.bindings.init.initName .request) := by
  rw [renderInit, h]

theorem not_lacksSchema_of_renderInit {forms : ContractForms} {renderer : FormRenderer Output}
    {options : FormOptions} {output : Output}
    (h : forms.renderInit renderer options = .ok output) {Value Error : Type}
    (codec : SchemaCodec Value Error) (value : Value) :
    ¬LacksSchema (forms.bindings.init.encodeRequest codec value) := by
  rw [InitMethod.lacksSchema_encodeRequest_iff]
  intro hnone
  rw [renderInit_of_none hnone] at h
  cases h

end ContractForms

/-- **Rendered forms can be submitted**, with one exception. Whatever toolkit a form is
rendered with, the toolkit presents a complete form. If this carries a document of what the
user enters, then the method has the schema to send it, except if the form asks and its
method has no such schema: this is never looked for. If it carries a document of what is
returned, the method has the schema to show it. Rendering fails only if a part is lacking
that is looked for, and reports this part. The form of the init function can be submitted if
it is rendered, and without the schema it is not rendered. -/
theorem rendered_forms_submittable {Output Value Error : Type} (renderer : FormRenderer Output)
    (codec : SchemaCodec Value Error) (options : FormOptions) :
    (∀ form : EntrypointForm,
      form.render renderer options = (form.render .asHanded options).map renderer.present ∧
      (∀ complete, form.render .asHanded options = .ok complete →
        (complete.requestDocument?.isSome → ∀ value,
          (LacksSchema (form.method.encodeRequest codec value) ↔
            form.kind = .invoke ∧ form.method.request = none)) ∧
        (complete.responseDocument?.isSome → ∀ data,
          ¬LacksSchema (form.method.decodeResponse codec data))) ∧
      ∀ error, form.render renderer options = .error error ↔
        ∃ part, form.Lacks part ∧ error = .missingPart form.method.receiveName part) ∧
    ∀ forms : ContractForms,
      (∀ output, forms.renderInit renderer options = .ok output → ∀ value,
        ¬LacksSchema (forms.bindings.init.encodeRequest codec value)) ∧
      (forms.bindings.init.request = none → forms.renderInit renderer options =
        .error (.missingPart forms.bindings.init.initName .request)) := by
  refine ⟨fun form => ⟨form.render_eq renderer options, fun complete h => ?_,
    fun error => EntrypointForm.render_eq_error_iff renderer⟩, fun forms => ⟨?_, ?_⟩⟩
  · have hbecomes := EntrypointForm.becomes_of_render h
    exact ⟨fun _ => hbecomes.lacksSchema_encodeRequest_iff codec,
      fun hresponse => hbecomes.not_lacksSchema_decodeResponse hresponse codec⟩
  · exact fun output h => ContractForms.not_lacksSchema_of_renderInit h codec
  · exact fun h => ContractForms.renderInit_of_none h renderer options

/-- A form that asks, with documents for both sides, of a method that has only the schema of
what it returns. -/
def unsendable : EntrypointForm where
  method := {
    contract := ⟨"sample", by decide, by decide, List.all_eq_true.mp (by decide), by decide⟩
    entrypoint := ⟨"view", by decide, List.all_eq_true.mp (by decide)⟩
    request := none
    response := some ⟨"Ag=="⟩
    error := none }
  kind := .invoke
  requestDocument := some ⟨.object [("title", .string "Query"), ("type", .string "integer")]⟩
  responseDocument := some ⟨.object [("title", .string "Answer"), ("type", .string "integer")]⟩

theorem rendered_forms_submittable_unsendable :
    (unsendable.render .asHanded ⟨none, []⟩).isOk ∧
      LacksSchema (unsendable.method.encodeRequest valueCodec .null) ∧
      ¬LacksSchema (unsendable.method.decodeResponse valueCodec []) ∧
      ({ unsendable with kind := .update } : EntrypointForm).render .asHanded ⟨none, []⟩ =
        .error (.missingPart "sample.view" .request) := by
  obtain ⟨hforms, -⟩ := rendered_forms_submittable .asHanded valueCodec ⟨none, []⟩
  obtain ⟨-, hcomplete, -⟩ := hforms unsendable
  obtain ⟨hrequest, hresponse⟩ := hcomplete _ rfl
  obtain ⟨-, -, hlacks⟩ := hforms { unsendable with kind := .update }
  refine ⟨rfl, (hrequest rfl .null).mpr ⟨rfl, rfl⟩, hresponse rfl [], ?_⟩
  exact (hlacks _).mpr ⟨.request, .request rfl rfl rfl, rfl⟩

/-- **A rendered form cannot always be submitted**, even if it carries a document of what the
user enters. -/
theorem not_forall_rendered_submittable :
    ¬∀ (form : EntrypointForm) (options : FormOptions) (complete : CompleteForm),
      form.render .asHanded options = .ok complete → complete.requestDocument?.isSome →
        ∀ value, ¬LacksSchema (form.method.encodeRequest valueCodec value) := by
  intro h
  refine h unsendable ⟨none, []⟩ _ rfl rfl .null ?_
  exact (ReceiveMethod.lacksSchema_encodeRequest_iff _ _ _).mpr rfl

end ContractSchema
