import TaintGrep.Command.Arguments
import TaintGrep.Command.Outcome
import TaintGrep.Engine.Plugin
import TaintGrep.Files.Page
import TaintGrep.Report.Machine
import TaintGrep.Report.Readable
import TaintGrep.Settings.Basic
import TaintGrep.Settings.Load

/-!
The command that greps saved pages: pages are taken in order and numbered from zero, and the records
that the engine lists at the end are reported in the format that is asked for.
-/

namespace TaintGrep.Command

open TaintGrep.Files TaintGrep.Text

namespace CheckOptions

def override (o : CheckOptions) (s : Settings) : Settings :=
  { s with
    scripts := if o.allScripts then .all else s.scripts
    calls := if o.allCalls then .all else s.calls
    simpleGrep := o.simpleGrep || s.simpleGrep }

def settingsDir (o : CheckOptions) (t : Tree) : Path :=
  let p := Path.ofString o.path
  if t.isFile p then p.parent?.getD (Path.ofString ".") else p

end CheckOptions

namespace Check

def target : String := "domxss::commands::check"

def settingsEvent (s : Settings) : Log.Event :=
  ⟨.debug, target, "effective configuration", [("config", .plain s.dump)]⟩

def startEvent (pages : Nat) (path : String) : Log.Event :=
  ⟨.info, target, "starting scan", [("pages", .number pages), ("path", .plain path)]⟩

def endEvent (pages findings : Nat) : Log.Event :=
  ⟨.info, target, "scan finished", [("pages", .number pages), ("findings", .number findings)]⟩

def unreadableEvent (page : Page) : Log.Event :=
  ⟨.warn, target, "skipping unreadable page",
    [("file", .plain page.path.text), ("error", .plain Files.Fault.nameTooLong.message)]⟩

def response (t : Tree) (root : Path) (base : Option String) (id : Nat) (page : Page) : Response :=
  ⟨page.url t root base, id, some page.contentType, page.bytes⟩

def responses (t : Tree) (root : Path) (base : Option String) (pages : List Page) : List Response :=
  (pages.zipIdx.filter fun (page, _) => page.isReadable).map fun (page, id) =>
    response t root base id page

def pageEvents (e : Engine) (t : Tree) (root : Path) (base : Option String) (pages : List Page) :
    List Log.Event :=
  pages.zipIdx.flatMap fun (page, id) =>
    if page.isReadable then e.events (response t root base id page) else [unreadableEvent page]

def scan (e : Engine) (rs : List Response) : List Record :=
  e.finish (rs.foldl e.grep KnowledgeBase.empty)

def bodies (rs : List Response) : Report.Bodies :=
  rs.map fun r => (r.url, String.ofList (Utf8.decodeLossy r.body))

def report? (format : String) (colour : Bool) (origin : Report.Origin) (rs : List Response)
    (records : List Record) : Option String :=
  match format with
  | "json" => some (Report.json origin rs.length records ++ "\n")
  | "ndjson" => some (Report.jsonLines origin rs.length records)
  | "text" => some (Report.plain colour records)
  | "pretty" => some (Report.pretty colour (bodies rs) records)
  | _ => none

/-- Colours are off with `--no-color` and with the variable, even an empty one. -/
def paints (c : Console) (o : CheckOptions) : Bool :=
  c.paints && !o.noColor && c.noColor.isNone

def runPages (s : Surroundings) (o : CheckOptions) (e : Engine) (pages : List Page)
    (before : List Output) : Outcome :=
  let root := Path.ofString o.path
  let rs := responses s.files root o.baseUrl pages
  let records := scan e rs
  let outputs := before ++ .log (startEvent pages.length o.path) ::
    (pageEvents e s.files root o.baseUrl pages).map .log ++ [.log (endEvent rs.length records.length)]
  let origin : Report.Origin := ⟨s.files.cwdPath.text, o.path⟩
  match report? o.format (paints s.console o) origin rs records with
  | none =>
    .failure s.files outputs
      ("Invalid format '" ++ o.format ++ "'. Valid values: pretty, text, json, ndjson")
  | some text =>
    ⟨outputs ++ [.out text], if o.failOnFindings && !records.isEmpty then 1 else 0, s.files⟩

def run (s : Surroundings) (o : CheckOptions) : Outcome :=
  let loaded := Settings.nearest s.files (o.settingsDir s.files)
  let settings := o.override loaded.settings
  let outputs := loaded.warnings.map (fun w => warning (paints s.console o) w.message) ++
    [.log (settingsEvent settings)]
  match Engine.ofSettings s.compiles settings with
  | .error e => .failure s.files outputs e.message
  | .ok e =>
    let pages? := s.files.pages? settings.pageExtensions (Path.ofString o.path)
    match pages?.map fun pages => pages.filter Page.isListed with
    | none => .failure s.files outputs ("Path does not exist: " ++ o.path)
    | some [] => .ofOutputs s.files (outputs ++ [.out "No pages found.\n"])
    | some pages => runPages s o e pages outputs

end Check

end TaintGrep.Command
