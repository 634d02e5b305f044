import RpcEndpoint.Connection.Worker

/-!
# Methods with known shapes

A method ties a name on the wire to the shapes of its params and of its result. Callbacks for such a
method see params that fit, and nothing else.
-/

namespace RpcEndpoint.Protocol

open Json

/-! ## Shapes

The shapes that the language-server methods of this library send and receive. -/

/-- The identifier of a request or of a piece of progress. -/
def numberOrString : Schema := .choice "NumberOrString" [.int32, .string]

/-! ### Documents -/

def textDocumentFields : List Field := [.needed "uri" .string]

def positionShape : Schema :=
  .record "Position" [.needed "line" .word32, .needed "character" .word32]

def rangeShape : Schema :=
  .record "Range" [.needed "start" positionShape, .needed "end" positionShape]

/-! ### Hovering -/

/-- The place and the progress of a hover request stand side by side in one object. -/
def hoverParams : Schema :=
  .merged "HoverParams"
    [[.needed "textDocument" (.record "TextDocumentIdentifier" textDocumentFields),
        .needed "position" positionShape],
      [.omittable "workDoneToken" numberOrString]]

/-- A text, or code with its language. -/
def markedString : Schema :=
  .choice "MarkedString"
    [.string,
      .record "LanguageString" [.needed "language" .string, .needed "value" .string]]

def markupContent : Schema :=
  .record "MarkupContent"
    [.needed "kind" (.variant ["plaintext", "markdown"]), .needed "value" .string]

def hoverContents : Schema :=
  .choice "HoverContents" [markedString, .list markedString, markupContent]

def hoverResult : Schema :=
  .optional (.record "Hover" [.needed "contents" hoverContents, .optional "range" rangeShape])

/-! ### The workspace -/

def workspaceFolders : Schema :=
  .optional (.list
    (.record "WorkspaceFolder" [.needed "uri" .string, .needed "name" .string]))

def configurationParams : Schema :=
  .record "ConfigurationParams"
    [.needed "items" (.list
      (.record "ConfigurationItem" [.optional "scopeUri" .string, .optional "section" .string]))]

def registrationParams : Schema :=
  .record "RegistrationParams"
    [.needed "registrations" (.list
      (.record "Registration"
        [.needed "id" .string, .needed "method" .string, .optional "registerOptions" .any]))]

/-! ### The window -/

def progressParams : Schema :=
  .record "WorkDoneProgressCreateParams" [.needed "token" numberOrString]

def showDocumentParams : Schema :=
  .record "ShowDocumentParams"
    [.needed "uri" .string, .optional "external" .bool, .optional "takeFocus" .bool,
      .optional "selection" rangeShape]

def showDocumentResult : Schema :=
  .record "ShowDocumentResult" [.needed "success" .bool]

/-- A message of a kind, under the name of its params. -/
def messageParams (name : String) : Schema :=
  .record name [.needed "type" .int32, .needed "message" .string]

/-! ### The session -/

def initializedParams : Schema := .record "InitializedParams" []

def logTraceParams : Schema :=
  .record "LogTraceParams" [.needed "message" .string, .optional "verbose" .string]

def cancelParams : Schema := .record "CancelParams" [.needed "id" numberOrString]

/-! ## Methods -/

/-- A request method. -/
structure RequestMethod where
  name : String
  params : Schema
  result : Schema

/-- A notification method. -/
structure NotificationMethod where
  name : String
  params : Schema

namespace RequestMethod

def shutdown : RequestMethod := ⟨"shutdown", .unit, .unit⟩

def hover : RequestMethod := ⟨"textDocument/hover", hoverParams, hoverResult⟩

def workspaceFolders : RequestMethod :=
  ⟨"workspace/workspaceFolders", .unit, Protocol.workspaceFolders⟩

def registerCapability : RequestMethod :=
  ⟨"client/registerCapability", registrationParams, .unit⟩

def progressCreate : RequestMethod := ⟨"window/workDoneProgress/create", progressParams, .unit⟩

def configuration : RequestMethod :=
  ⟨"workspace/configuration", configurationParams, .list .any⟩

def showDocument : RequestMethod :=
  ⟨"window/showDocument", showDocumentParams, showDocumentResult⟩

end RequestMethod

namespace NotificationMethod

def initialized : NotificationMethod := ⟨"initialized", initializedParams⟩

def exit : NotificationMethod := ⟨"exit", .unit⟩

def logMessage : NotificationMethod := ⟨"window/logMessage", messageParams "LogMessageParams"⟩

def showMessage : NotificationMethod := ⟨"window/showMessage", messageParams "ShowMessageParams"⟩

def logTrace : NotificationMethod := ⟨"$/logTrace", logTraceParams⟩

def cancel : NotificationMethod := ⟨"$/cancelRequest", cancelParams⟩

end NotificationMethod

/-! ## Handlers -/

variable {app : Application}

/-- The params as they go on the wire. -/
def encodeParams (params : Value) : Params :=
  Params.ofValue params.sorted

/-- The answer to a request whose params do not fit its method. -/
def invalidParams (method : String) (fault : Fault) : ResponseError :=
  .new .invalidParams ("invalid params for " ++ method ++ ": " ++ fault.message)

/-- Handles a notification whose params fit; one whose params do not is dropped. -/
def NotificationMethod.handler (method : NotificationMethod)
    (react : Value → Reaction app) : Registration app :=
  .notification method.name fun notification =>
    match readParams method.params notification.params with
    | .ok params => react params
    | .error _ => .done

/-- Handles a request whose params fit; one whose params do not is answered with an error. -/
def RequestMethod.handler (method : RequestMethod)
    (react : Value → TicketNumber → Reaction app) : Registration app :=
  .request method.name fun request ticket =>
    match readParams method.params request.params with
    | .ok params => react params ticket
    | .error fault =>
      .answer ticket (.error (invalidParams method.name fault)) fun _ => .done

end RpcEndpoint.Protocol
