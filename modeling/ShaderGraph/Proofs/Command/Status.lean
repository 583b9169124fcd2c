import Mathlib
import ShaderGraph.Command.Compile
import ShaderGraph.Proofs.Service.Compile

/-!
# The status of the compile command

The command tells three cases apart by its status: the content of the file
describes no graph, the graph has problems, or all went well. Two contents leave it
without a status: bytes that are not UTF-8, and a graph whose program stops at a
number that is too wide to print (`Compile.status_of_content`).
-/

namespace ShaderGraph

namespace Sample

/-- The command on a file with the given content, where nothing is set. -/
def run (arguments : List String) (bytes : ByteArray) : Command.Transcript :=
  (Command.Compile.outcome ⟨[]⟩ idAt (fun _ => .ok bytes) arguments).onDisk "" ⟨[]⟩

/-- The block reads from a block that is not there, and then holds a number that is too
wide. -/
def danglingFile : ByteArray := (paintText "\"color\":\"b:color\",\"alpha\":1e26").toUTF8

/-- A line with a precision. -/
def danglingLine : List String := ["--precision", "highp", "g.json"]

end Sample

/-- A run that ends with a status, as it can be evaluated: the failures it might have ended
with cannot be compared, but whether there is one can. -/
theorem Command.Transcript.status_eq_ok {t : Command.Transcript} {status : Nat}
    (ended : t.status.toOption = some status) : t.status = .ok status := by
  cases found : t.status with
  | error failure =>
    rw [found] at ended
    cases ended
  | ok other =>
    rw [found] at ended
    cases ended
    rfl

namespace Command.Compile

/-- The bytes are the UTF-8 text of a JSON document that describes the graph, where ids are
generated for uniforms in this way. -/
def Describes (idAt : Nat → String) (bytes : ByteArray) (g : Graph) : Prop :=
  ∃ text doc, String.fromUTF8? bytes = some text ∧ Json.read .strict text = .ok doc ∧
    Graph.read idAt .text doc = .accepted g

/-- The command has what it needs: settings, a line that does not ask for a file to be
stored, and the content of the graph's file. -/
structure Started (env : Environment) (readFile : Path → Except Disk.Fault ByteArray)
    (arguments : List String) (settings : Settings) (options : Options) (bytes : ByteArray) :
    Prop where
  settings : Settings.read env = .ok settings
  line : grammar.read .usual arguments = .ok options
  prints : options.output = none
  file : readFile options.graph = .ok bytes

variable {env : Environment} {idAt : Nat → String} {readFile : Path → Except Disk.Fault ByteArray}
  {arguments : List String} {settings : Settings} {options : Options} {bytes : ByteArray}
  {text time : String} {g : Graph} {log : Log} {disk : Disk}

/-- A command that was started goes on with the content of its file. Arguments and
environment are settled by then and play no further part. -/
theorem Started.outcome_eq (started : Started env readFile arguments settings options bytes) :
    outcome env idAt readFile arguments =
      onContent (Log.bare.configure (options.debug || settings.debug)) settings options idAt
        (.ok bytes) := by
  simp only [outcome, started.line, started.settings, started.file]

/-! ## The content of the file -/

/-- The blocks of a graph that bytes describe were read from a document, so their values
are valid. -/
theorem Describes.parsed (describes : Describes idAt bytes g) : ∀ b ∈ g.blocks, b.Parsed := by
  obtain ⟨_, _, _, _, accepted⟩ := describes
  obtain ⟨_, _, accepted⟩ := Read.model_eq_accepted_iff.mp accepted
  exact Graph.parsed_of_readFields accepted

/-- Bytes describe one graph at most, so what is said of some graph they describe is said
of the one at hand. -/
theorem Describes.exists_iff (describes : Describes idAt bytes g) {P : Graph → Prop} :
    (∃ g, Describes idAt bytes g ∧ P g) ↔ P g := by
  refine ⟨?_, fun holds => ⟨g, describes, holds⟩⟩
  rintro ⟨g', ⟨text', doc', decoded', read', accepted'⟩, holds⟩
  obtain ⟨text, doc, decoded, read, accepted⟩ := describes
  obtain rfl : text' = text := Option.some.inj (decoded'.symm.trans decoded)
  obtain rfl : doc' = doc := Except.ok.inj (read'.symm.trans read)
  obtain rfl : g' = g := Checked.accepted.inj (accepted'.symm.trans accepted)
  exact holds

/-- Once the bytes describe a graph, the command goes on with this graph: decoding and
reading have nothing more to refuse. -/
theorem onContent_of_describes (describes : Describes idAt bytes g) :
    onContent log settings options idAt (.ok bytes) = onGraph log settings options g := by
  obtain ⟨text, doc, decoded, read, accepted⟩ := describes
  simp only [onContent, decoded, onDocument, readGraph, Read.document, read, Checked.andThen,
    accepted, Checked.toExcept]

/-- Text that describes no graph is bad input, whether it is no document at all or a
document that is refused; only the lines that are printed differ. -/
theorem onContent_of_not_describes (decoded : String.fromUTF8? bytes = some text)
    (nothing : ¬ ∃ g, Describes idAt bytes g) :
    ∃ lines, onContent log settings options idAt (.ok bytes) = stop log badInput lines := by
  simp only [onContent, decoded, onDocument]
  cases found : readGraph idAt (Read.document text) with
  | error rejection => exact ⟨_, rfl⟩
  | ok g =>
    have accepted : (Read.document text).andThen (Graph.read idAt .text) = .accepted g :=
      Checked.toOption_toExcept_eq_some_iff.mp (congrArg Except.toOption found)
    obtain ⟨doc, document, accepted⟩ := Checked.andThen_eq_accepted_iff.mp accepted
    unfold Read.document at document
    split at document
    next read =>
      cases document
      exact absurd ⟨g, text, doc, decoded, read, accepted⟩ nothing
    next => exact absurd document Checked.fail_ne_accepted

/-! ## The graph -/

/-- The status of what compiling comes to. -/
def statusOf : Except Refusal (CompileAnswer String) → Except Failure Nat
  | .ok _ => .ok ok
  | .error .numberTooWide => .error .numberTooWide
  | .error _ => .ok problemsFound

/-- The status for a graph goes by its problems when it is only to be checked, and by what
compiling gives when it is to be compiled. The program must go to the output, for a file
might not be written. -/
theorem status_onGraph (prints : options.output = none) :
    ((onGraph log settings options g).onDisk time disk).status =
      if options.checkOnly then
        .ok (if Block.problems .builtin g.blocks = [] then ok else problemsFound)
      else statusOf (g.compile .builtin (options.precision.getD settings.precision)) := by
  unfold onGraph
  split
  · simp [stop, Outcome.onDisk, Graph.check]
  · cases g.compile .builtin (options.precision.getD settings.precision) with
    | ok answer =>
      simp only [prints]
      rfl
    | error refusal => cases refusal <;> rfl

/-- Compiling a graph that bytes describe stops at a number in the way
`Program.StopsAtNumber` tells. Its values are valid, so no unchecked one can stop it
before. -/
theorem Describes.compile_eq_numberTooWide_iff (describes : Describes idAt bytes g)
    (precision : Precision) :
    g.compile .builtin precision = .error .numberTooWide ↔
      Program.StopsAtNumber .builtin g.blocks :=
  Graph.compile_eq_numberTooWide_iff.trans
    (Program.generate_eq_numberTooWide_iff Catalog.defaulted_builtin describes.parsed)

/-! ## The status -/

namespace Started

/-- Bytes that are no UTF-8 end the command without a status, since decoding is not among
the failures it reports. -/
theorem status_of_notUtf8 (started : Started env readFile arguments settings options bytes)
    (undecoded : String.fromUTF8? bytes = none) :
    ((outcome env idAt readFile arguments).onDisk time disk).status = .error .notUtf8 := by
  rw [started.outcome_eq]
  simp only [onContent, undecoded, Outcome.onDisk]

/-- Text that describes no graph ends the command with the status of bad input, whatever
was asked for. -/
theorem status_of_not_describes (started : Started env readFile arguments settings options bytes)
    (decoded : String.fromUTF8? bytes = some text) (nothing : ¬ ∃ g, Describes idAt bytes g) :
    ((outcome env idAt readFile arguments).onDisk time disk).status = .ok badInput := by
  obtain ⟨lines, stopped⟩ := onContent_of_not_describes decoded nothing
  rw [started.outcome_eq, stopped]
  rfl

/-- A graph ends the command with the status of checking or of compiling it, as was asked
for. -/
theorem status_of_describes (started : Started env readFile arguments settings options bytes)
    (describes : Describes idAt bytes g) :
    ((outcome env idAt readFile arguments).onDisk time disk).status =
      if options.checkOnly then
        .ok (if Block.problems .builtin g.blocks = [] then ok else problemsFound)
      else statusOf (g.compile .builtin (options.precision.getD settings.precision)) := by
  rw [started.outcome_eq, onContent_of_describes describes, status_onGraph started.prints]

end Started

/-- **The status of the command tells what the file holds.** It is 2 if its text
describes no graph, 1 if the graph has problems or no program, whichever is asked for,
and 0 if all is well. There is no status if the bytes are not UTF-8, or if compiling
stops at a number. -/
theorem status_of_content (started : Started env readFile arguments settings options bytes)
    (idAt : Nat → String) (time : String) (disk : Disk) :
    let status := ((outcome env idAt readFile arguments).onDisk time disk).status
    let compiled (g : Graph) := g.compile .builtin (options.precision.getD settings.precision)
    (status = .ok badInput ↔
      (∃ text, String.fromUTF8? bytes = some text) ∧ ¬ ∃ g, Describes idAt bytes g) ∧
    (status = .ok problemsFound ↔ ∃ g, Describes idAt bytes g ∧
      if options.checkOnly then Block.problems .builtin g.blocks ≠ []
      else ∃ refusal, compiled g = .error refusal ∧ refusal ≠ .numberTooWide) ∧
    (status = .ok ok ↔ ∃ g, Describes idAt bytes g ∧
      if options.checkOnly then Block.problems .builtin g.blocks = []
      else ∃ answer, compiled g = .ok answer) ∧
    (status = .error .notUtf8 ↔ String.fromUTF8? bytes = none) ∧
    (status = .error .numberTooWide ↔ ∃ g, Describes idAt bytes g ∧
      options.checkOnly = false ∧ Program.StopsAtNumber .builtin g.blocks) ∧
    ∀ failure, status = .error failure → failure = .notUtf8 ∨ failure = .numberTooWide := by
  intro status compiled
  cases decoded : String.fromUTF8? bytes with
  | none =>
    have nothing : ∀ g, ¬ Describes idAt bytes g := by
      rintro g ⟨_, _, decoded', _⟩
      cases decoded.symm.trans decoded'
    have escaped : status = .error .notUtf8 := started.status_of_notUtf8 decoded
    simp [escaped, nothing]
  | some text =>
    by_cases described : ∃ g, Describes idAt bytes g
    · obtain ⟨g, describes⟩ := described
      have described : ∃ g, Describes idAt bytes g := ⟨g, describes⟩
      have ended : status = _ := started.status_of_describes describes
      -- The bytes describe this graph alone, so all is said about it.
      simp only [describes.exists_iff]
      cases asked : options.checkOnly with
      | true =>
        rw [asked, if_pos rfl] at ended
        by_cases sound : Block.problems .builtin g.blocks = [] <;>
          simp [ended, sound, described, ok, problemsFound, badInput]
      | false =>
        rw [asked, if_neg Bool.false_ne_true] at ended
        have wide : compiled g = .error .numberTooWide ↔
            Program.StopsAtNumber .builtin g.blocks := describes.compile_eq_numberTooWide_iff _
        have ended : status = statusOf (compiled g) := ended
        rw [← wide, ended]
        cases compiled g with
        | ok answer => simp [statusOf, described, ok, problemsFound, badInput]
        | error refusal =>
          cases refusal <;> simp [statusOf, described, ok, problemsFound, badInput]
    · have bad : status = .ok badInput := started.status_of_not_describes decoded described
      simp [bad, not_exists.mp described, badInput, problemsFound, ok]

/-- A connection that leads nowhere is a problem of the graph, and the status is 1: the
number behind it is not reached. -/
theorem status_of_content_dangling :
    ∃ settings options, Started ⟨[]⟩ (fun _ => .ok Sample.danglingFile) Sample.danglingLine settings
      options Sample.danglingFile ∧
    ∃ g, Describes Sample.idAt Sample.danglingFile g ∧
      ∃ refusal, g.compile .builtin .highp = .error refusal ∧ refusal ≠ .numberTooWide := by
  have started : Started ⟨[]⟩ (fun _ => .ok Sample.danglingFile) Sample.danglingLine .usual
      ⟨.ofText "g.json", false, some .highp, none, false⟩ Sample.danglingFile :=
    ⟨by cbv, by cbv, rfl, rfl⟩
  have status : (Sample.run Sample.danglingLine Sample.danglingFile).status = .ok problemsFound :=
    Transcript.status_eq_ok (by decide +kernel)
  exact ⟨_, _, started, (status_of_content started Sample.idAt "" ⟨[]⟩).2.1.mp status⟩

/-- Bytes that are no UTF-8 and a graph with a number that is too wide leave no status.
Both failures escape the command. -/
theorem content_without_status :
    (Sample.run ["g.json"] ⟨#[0xFF]⟩).status.toOption = none ∧
    (Sample.run ["g.json"] (Sample.paintText "\"alpha\":1e26").toUTF8).status.toOption = none := by
  decide +kernel

end Command.Compile

end ShaderGraph
