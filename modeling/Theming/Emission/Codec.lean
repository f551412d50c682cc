/-
# Reports in documents

| record | members |
| --- | --- |
| report | `written`, `failed`, `collisions`, `success` |
| written companion | `type`, `companion`, `path` |
| failed type | `type`, `error` (`Model` or `Io`), `message` |
-/

import Theming.Data.Value
import Theming.Emission

namespace Theming

/-- The cause of an emission error in one word. -/
def EmitError.cause : EmitError → String
  | .model _ => "Model"
  | .io .. => "Io"

/-- A written companion as a document value. -/
def EmittedCompanion.toData (e : EmittedCompanion) : Data :=
  .record [("type", .text e.declaring), ("companion", .text e.companion), ("path", .text e.file)]

/-- A type that failed as a document value. -/
def EmitReport.failureToData (failure : String × EmitError) : Data :=
  .record [("type", .text failure.1), ("error", .text failure.2.cause),
    ("message", .text failure.2.message)]

/-- A report as a document value. -/
def EmitReport.toData (report : EmitReport) : Data :=
  .record [("written", .list (report.written.map EmittedCompanion.toData)),
    ("failed", .list (report.failed.map EmitReport.failureToData)),
    ("collisions", .list (report.collisions.map .text)), ("success", .bool report.isSuccess)]

end Theming
