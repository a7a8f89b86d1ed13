import ProjectAtlas.Command.Run
import ProjectAtlas.Files.Snapshot
import ProjectAtlas.Json.Reader
import ProjectAtlas.Service.Basic

/-!
The program. The first line of standard input describes the files: an object whose field "files" holds
a content for each path, and whose field "directory" names the working directory. After a project was
scanned in order to be served, every further line is a request, and is answered by one line.
-/

namespace ProjectAtlas.Program

def textField (v : Json) (key otherwise : String) : String :=
  match v.field? key with
  | some (.str s) => s
  | _ => otherwise

def volumeOf (line : String) : Volume :=
  match Json.parse usualRoom line.toList with
  | .error _ => { root := .dir [] false }
  | .ok v =>
    let volume : Volume := { root := .dir [] false }
    let files := (v.field? "files").getD .null
    { Snapshot.putAll volume (Path.ofString "/") files with
      workingDirectory := (Path.ofString (textField v "directory" "/")).parts }

def requestOf (line : String) : Service.Request :=
  match Json.parse usualRoom line.toList with
  | .error _ => .ofTarget "GET" "" none
  | .ok v => .ofTarget (textField v "method" "GET") (textField v "path" "/") (v.field? "body")

def answerLine (a : Service.Answer) : String :=
  let body := match a with
    | .document _ body => body
    | .failure => .str Service.failureText
  (Json.obj [("status", Json.nat a.status), ("body", body)]).compact

def crashMessage : Command.Crash → String
  | .root fault => fault.message
  | .scan fault => fault.message
  | .noPath => Command.noPathMessage
  | .integerUnwritable => Text.integerUnwritableMessage

/-- Answer requests until there are no more lines. -/
partial def serve (input output : IO.FS.Stream) (v : Volume) (s : Service) : IO Unit := do
  let line ← input.getLine
  if line.isEmpty then return
  let (s, answer) := s.respond v (requestOf line)
  output.putStrLn (answerLine answer)
  output.flush
  serve input output v s

end ProjectAtlas.Program

open ProjectAtlas in
def main (args : List String) : IO UInt32 := do
  let input ← IO.getStdin
  let output ← IO.getStdout
  let errors ← IO.getStderr
  let v := Program.volumeOf (← input.getLine)
  match Command.run v args with
  | .error crash =>
    errors.putStrLn (Program.crashMessage crash)
    return 1
  | .ok outcome =>
    for entry in outcome.journal do
      errors.putStrLn entry.consoleLine
    output.putStr outcome.output
    output.flush
    for message in outcome.message.toList do
      errors.putStrLn message
    match outcome.serving with
    | some serving => Program.serve input output v { current := some serving.indexer }
    | none => pure ()
    return outcome.code.toUInt32
