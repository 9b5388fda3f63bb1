import WebStyle.Document
/-!
How a document gets its sheets: those of its elements, and those that they import. Imports of a sheet
that was just loaded are fetched before all other loads, in the order in which they stand.
-/
set_option autoImplicit false

namespace WebStyle

def Change.removed? : Change → Option SheetId
  | .removed s => some s
  | _ => none

def Change.imported? : Change → Option (SheetId × RuleId)
  | .imported s r => some (s, r)
  | _ => none

namespace Document

/-! ### Changes of the object model -/

def isLive (d : Document) : LoadTarget → Bool
  | .linked s => (d.model.sheet? s).isSome
  | .imported r => (d.model.rule? r).isSome

/-- The address that an import in a sheet is to be loaded from. -/
def importUrl (d : Document) (s : SheetId) (href : String) : Except LoadError Url := do
  let address (s : SheetId) : Option String := (d.model.sheet? s).bind (·.href)
  let url ← resolveHref ((address s).or (d.url.map Url.text)) href
  checkImport url ((d.model.importChain s).filterMap address) d.settings.loader.maxImportDepth
  pure url

/-- Queues the load of an import, in place of an earlier one. An import that may not be loaded is
passed over, and the earlier load stays. -/
def schedule (atFront : Bool) (d : Document) (i : SheetId × RuleId) : Document :=
  let (s, r) := i
  match d.discarded, d.model.importHref r with
  | false, .ok href =>
    match d.importUrl s href with
    | .error _ => d
    | .ok url =>
      let loads := d.loads.filter (·.target != .imported r)
      let referrer := (d.encodings.find? s).getD d.encoding
      let push := if atFront then loads.pushFront else loads.pushBack
      { d with loads := (push url (.imported r) (some referrer)).1 }
  | _, _ => d

/-- Forgets sheets that were removed, and the loads for what is gone. -/
def dropRemoved (d : Document) : List SheetId → Document
  | [] => d
  | removed =>
    { d with
      encodings := removed.foldl Table.erase d.encodings
      loads := d.loads.filter fun l => d.isLive l.target }

/-- Takes notice of the changes of the object model: styles are computed anew, and imports queued.
With `importsFirst` they come before all other loads. -/
def notice (d : Document) (importsFirst : Bool) : Document :=
  let (changes, model) := d.model.takeChanges
  if changes.isEmpty then d
  else
    let d := { d with model, cache := .empty }.dropRemoved (changes.filterMap Change.removed?)
    let imports := changes.filterMap Change.imported?
    if importsFirst then imports.reverse.foldl (schedule true) d
    else imports.foldl (schedule false) d

def sync (d : Document) : Document := d.notice false

/-- The tickets and addresses of the loads to be fetched, the next one first. -/
def pendingLoads (d : Document) : List (Nat × Url) × Document :=
  let d := d.sync
  (d.loads.pending.map fun l => (l.ticket, l.url), d)

/-! ### Results of loads -/

/-- Gives the sheet of a link its rules. -/
def fillLinked (d : Document) (s : SheetId) (text : String) : Option SheetId × Document :=
  let (result, d) := d.edit (ModelM.replaceRules s text)
  (if result.toBool then some s else none, d)

/-- Gives an import a new sheet. -/
def fillImport (d : Document) (r : RuleId) (url text : String) : Option SheetId × Document :=
  match ((d.model.rule? r).bind (·.parentSheet)).bind d.model.sheet? with
  | none => (none, d)
  | some parent =>
    let (model, s) := d.model.createSheet (some url) "" parent.origin
    let d := { d with model }
    let fill : ModelM Unit := do
      ModelM.replaceRules s text
      ModelM.attachImport r s
    match d.edit fill with
    | (.ok _, d) => (some s, d)
    | (.error _, d) => (none, (d.edit (ModelM.removeSheet s)).2)

def fill (d : Document) (url : Url) (text : String) : LoadTarget → Option SheetId × Document
  | .linked s => d.fillLinked s text
  | .imported r => d.fillImport r url.text text

/-- Takes the result of a load, and tells whether it was of use. A load that is not under way any
more is passed over. -/
def complete (d : Document) (ticket : Nat) (result : Except FetchError Response) :
    Bool × Document :=
  let d := d.sync
  if d.discarded then (false, d)
  else match d.loads.take ticket with
    | (_, none) => (false, d)
    | (loads, some load) =>
      let d := { d with loads }
      let read := (result.mapError LoadError.fetch).bind fun r =>
        SheetText.ofResponse load r d.settings.loader
      match read with
      | .error _ => (false, d)
      | .ok sheet =>
        match d.fill load.url sheet.text load.target with
        | (none, d) => (false, d)
        | (some s, d) =>
          (true, { d with encodings := d.encodings.insert s sheet.encoding }.notice true)

/-- Fetches loads, the first in the queue each time, until none is left, and returns how many were
fetched. At most as many are fetched as the fuel allows. -/
def runFuel {σ : Type} (fetch : Url → StateM σ (Except FetchError Response)) :
    Nat → Document → StateM σ (Nat × Document)
  | 0, d => pure (0, d)
  | fuel + 1, d => do
    let d := d.sync
    match d.loads.front? with
    | none => pure (0, d)
    | some load =>
      let result ← fetch load.url
      let (n, d) ← runFuel fetch fuel (d.complete load.ticket result).2
      pure (n + 1, d)

end Document

/-- Resources by their addresses. -/
abbrev Resources := Table String Response

namespace Resources

/-- Adds a resource, in place of an earlier one; its address is brought into normal form, if it is
one. -/
def add (r : Resources) (url : String) (response : Response) : Resources :=
  r.insert (((Url.ofString? url).map Url.text).getD url) response

/-- Fetches a resource, and records the request. -/
def fetch (r : Resources) (url : Url) : StateM (List String) (Except FetchError Response) := do
  modify (· ++ [url.text])
  pure <| match r.find? url.text with
    | some response => .ok response
    | none => .error (.notFound url.text)

end Resources

namespace Document

/-- How many loads there can be at most. A sheet has fewer imports than bytes, and each one in a row
of imports is another resource. -/
def loadLimit (d : Document) (r : Resources) : Nat :=
  let bytes := (r.entries.map fun (_, response) => response.bytes.length).foldl Nat.max 0
  let depth := Nat.min d.settings.loader.maxImportDepth r.size
  d.sync.loads.size * Nat.pow (bytes + 2) (depth + 2) + 1

/-- Fetches all loads from the given resources: how many there were, and their addresses. -/
def run (d : Document) (r : Resources) : (Nat × List String) × Document :=
  let ((n, d), requests) := (runFuel r.fetch (d.loadLimit r) d).run []
  ((n, requests), d)

end Document

namespace DocumentM

/-! ### Sheets of elements -/

/-- The media and the title that an element gives its sheet. -/
def sheetAttributes (e : Element) : String × Option String :=
  ((e.attribute? "media").getD "", e.attribute? "title")

/-- Adds an author's sheet that an element owns. -/
def addSheet (n : NodeId) (href : Option String) : DocumentM SheetId := do
  let (media, title) := sheetAttributes (← element n)
  let s ← edit (ModelM.createSheet href media .author)
  edit (ModelM.setOwner s (some n) title)
  pure s

/-- Adds the sheet of a `style` element. -/
def addStyleElement (n : NodeId) (text : String) : DocumentM SheetId := do
  let s ← addSheet n none
  edit (ModelM.replaceRules s text)
  modify fun d => { d with sheets := d.sheets ++ [s] }
  pure s

/-- Queues the load of a linked sheet, unless the document was given up. -/
def loadLinked (s : SheetId) (url : Url) (charset : Option String) : DocumentM Unit :=
  modify fun d =>
    if d.discarded then d
    else
      let (loads, ticket) := d.loads.pushBack url (.linked s) (some d.encoding)
      { d with loads := loads.declare ticket charset }

/-- Adds the sheet of a `link` element. It stays empty until it is loaded. -/
def addLinked (n : NodeId) : DocumentM SheetId := do
  let e ← element n
  let href := (e.attribute? "href").getD ""
  let resolved := (resolveHref ((← get).url.map Url.text) href).toOption
  let s ← addSheet n (some ((resolved.map Url.text).getD href))
  modify fun d => { d with sheets := d.sheets ++ [s] }
  if let some url := resolved then
    loadLinked s url (e.attribute? "charset")
  pure s

/-- Removes a sheet with all that it imported. -/
def removeStyleSheet (s : SheetId) : DocumentM Unit := do
  edit (ModelM.removeSheet s)
  modify fun d => { d with sheets := d.sheets.filter (· != s) }.sync

end DocumentM
end WebStyle
