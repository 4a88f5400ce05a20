import Innovents.Auth.Schema

namespace Innovents.Auth

open Innovents.Lib Innovents.Lib.JsValue

namespace AuditService

section Redaction

variable {params : CreateAuditLogParams} {metadata : List (String × JsValue)} {k : String}
  {v : JsValue}

end Redaction

section Sample

end Sample

end AuditService

end Innovents.Auth
