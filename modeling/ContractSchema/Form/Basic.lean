import ContractSchema.Contract
import ContractSchema.Form.Document
import ContractSchema.Table

/-!
# Forms

A form lets a user call a method of a contract. It joins the method with the
documents that describe to the user what the method takes and returns, and with the
schemas by which values become bytes.

* `ContractSchema.InitForm`, `ContractSchema.UpdateForm` and `ContractSchema.InvokeForm` are
  the three sorts of forms, complete with all parts they need.
* `ContractSchema.FormRenderer` turns forms into whatever a toolkit shows.
* `ContractSchema.EntrypointForm` is the form of an entrypoint before it is known to be
  complete, and `ContractSchema.ContractForms` are all forms of a contract. Rendering one
  fails if a part is missing, the documents being looked for before the schemas.
-/

namespace ContractSchema

/-! ### Complete forms -/

/-- How a form is to be presented. It is passed on as it is. -/
structure FormOptions where
  /-- Hints on the layout. -/
  layout : Option Json
  /-- Widgets by the names of fields. -/
  widgets : List (String × String)

/-- The options made of hints and of widgets; the last widget of a field wins. -/
def FormOptions.ofWidgets (layout : Option Json) (widgets : List (String × String)) :
    FormOptions :=
  ⟨layout, Table.ofRows widgets⟩

/-- **A form that creates an instance** of a contract. -/
structure InitForm where
  /-- The init function. -/
  method : InitMethod
  /-- The document of what it takes. -/
  requestDocument : FormDocument
  /-- The schema of what it takes. -/
  request : SchemaBlob
  /-- How the form is to be presented. -/
  options : FormOptions

/-- **A form that changes the state** of an instance. -/
structure UpdateForm where
  /-- The entrypoint. -/
  method : ReceiveMethod
  /-- The document of what it takes. -/
  requestDocument : FormDocument
  /-- The schema of what it takes. -/
  request : SchemaBlob
  /-- How the form is to be presented. -/
  options : FormOptions

/-- **A form that asks** an instance and shows what is returned. -/
structure InvokeForm where
  /-- The entrypoint. -/
  method : ReceiveMethod
  /-- The document of what it takes, if there is anything to enter. -/
  requestDocument : Option FormDocument
  /-- The schema of what it takes, if there is one. -/
  request : Option SchemaBlob
  /-- The document of what it returns. -/
  responseDocument : FormDocument
  /-- The schema of what it returns. -/
  response : SchemaBlob
  /-- How the form is to be presented. -/
  options : FormOptions

/-- **A toolkit that shows forms.** -/
structure FormRenderer (Output : Type) where
  /-- Shows a form that creates an instance. -/
  initForm : InitForm → Output
  /-- Shows a form that changes the state. -/
  updateForm : UpdateForm → Output
  /-- Shows a form that asks. -/
  invokeForm : InvokeForm → Output

/-! ### Forms of entrypoints -/

/-- How the form of an entrypoint is submitted. -/
inductive FormKind
  /-- As a transaction that changes the state. -/
  | update
  /-- Without a transaction; what is returned is shown. -/
  | invoke
deriving DecidableEq, Repr

/-- The name of a kind of form. -/
def FormKind.text : FormKind → String
  | .update => "update"
  | .invoke => "invoke"

/-- **The form of an entrypoint**, which may lack parts. -/
structure EntrypointForm where
  /-- The entrypoint. -/
  method : ReceiveMethod
  /-- How the form is submitted. -/
  kind : FormKind
  /-- The document of what the entrypoint takes. -/
  requestDocument : Option FormDocument
  /-- The document of what it returns. -/
  responseDocument : Option FormDocument

namespace EntrypointForm

/-- The form of an entrypoint that changes the state. -/
def update (method : ReceiveMethod) (request : FormDocument) : EntrypointForm :=
  ⟨method, .update, some request, none⟩

/-- The form of an entrypoint that is asked. -/
def invoke (method : ReceiveMethod) (request : Option FormDocument) (response : FormDocument) :
    EntrypointForm :=
  ⟨method, .invoke, request, some response⟩

/-- Checks what the user has entered. Without a document everything passes. -/
def checkRequest (form : EntrypointForm) (value : Json) : Except FormError Unit :=
  match form.requestDocument with
  | some document => document.check value
  | none => .ok ()

/-- A part of the form, which has to be there. -/
def require {α : Type} (form : EntrypointForm) (part : FormPart) :
    Option α → Except FormError α
  | some a => .ok a
  | none => .error (.missingPart form.method.receiveName part)

/-- **Renders the form** of an entrypoint. -/
def render {Output : Type} (form : EntrypointForm) (renderer : FormRenderer Output)
    (options : FormOptions) : Except FormError Output :=
  match form.kind with
  | .update => do
    let requestDocument ← form.require .requestDocument form.requestDocument
    let request ← form.require .request form.method.request
    return renderer.updateForm ⟨form.method, requestDocument, request, options⟩
  | .invoke => do
    let responseDocument ← form.require .responseDocument form.responseDocument
    let response ← form.require .response form.method.response
    return renderer.invokeForm ⟨form.method, form.requestDocument, form.method.request,
      responseDocument, response, options⟩

end EntrypointForm

/-! ### Forms of contracts -/

/-- **The forms of a contract.** -/
structure ContractForms where
  /-- The bindings of the contract. -/
  bindings : ContractBindings
  /-- The document of what the init function takes. -/
  initDocument : FormDocument
  /-- The forms of entrypoints by their keys. -/
  entrypoints : List (String × EntrypointForm)

namespace ContractForms

/-- The forms made of the given ones; the last form of a key wins. -/
def ofForms (bindings : ContractBindings) (initDocument : FormDocument)
    (entrypoints : List (String × EntrypointForm)) : ContractForms :=
  ⟨bindings, initDocument, Table.ofRows entrypoints⟩

/-- **Renders the form of the init function.** -/
def renderInit {Output : Type} (forms : ContractForms) (renderer : FormRenderer Output)
    (options : FormOptions) : Except FormError Output :=
  let method := forms.bindings.init
  match method.request with
  | some request => .ok (renderer.initForm ⟨method, forms.initDocument, request, options⟩)
  | none => .error (.missingPart method.initName .request)

/-- The form of the entrypoint with a key. -/
def entrypoint (forms : ContractForms) (key : String) : Except FormError EntrypointForm :=
  match forms.entrypoints.lookup key with
  | some form => .ok form
  | none => .error (.unknownEntrypoint key)

/-- **Renders the form of the entrypoint** with a key. -/
def render {Output : Type} (forms : ContractForms) (key : String)
    (renderer : FormRenderer Output) (options : FormOptions) : Except FormError Output := do
  (← forms.entrypoint key).render renderer options

/-- The documents of a form, named by what they describe. -/
def documentsOf (key : String) (form : EntrypointForm) : List (String × FormDocument) :=
  (form.requestDocument.map fun document => (key ++ ".request", document)).toList ++
    (form.responseDocument.map fun document => (key ++ ".response", document)).toList

/-- **All documents of the forms**, named by what they describe. -/
def documents (forms : ContractForms) : List (String × FormDocument) :=
  ("init.request", forms.initDocument) ::
    forms.entrypoints.flatMap fun (key, form) => documentsOf key form

end ContractForms

end ContractSchema
