import TypedSql.CommandLine
import TypedSql.Proofs.Generate.Outcome
import TypedSql.Proofs.Protobuf.RoundTrip

/-!
The answer of the plugin holds the generated files, and nothing else. What is written of a list of
files is read back as these files, so no two lists have one answer. A run that fails, while the
request is decoded or while the files are generated, writes nothing.
-/

namespace TypedSql.Plugin

open Protobuf (Field MessageType)

theorem File.roundTrips : File.messageType.RoundTrips 0 :=
  MessageType.roundTrips_of_restoreAll (by decide) fun file =>
    .cons (Field.restores_text rfl) <|
    .cons (Field.restores_bytes rfl) <|
    .nil file

theorem Response.roundTrips : Response.messageType.RoundTrips 1 :=
  MessageType.roundTrips_of_restoreAll (by decide) fun response =>
    .cons (Field.restores_messages File.roundTrips (by omega) (fun _ => rfl)
      (fun _ _ => rfl) rfl) <|
    .nil response

theorem decode_encodeResponse {files : List GeneratedFile}
    (hlength : (encodeResponse files).length < UInt64.size) :
    Response.messageType.decode (encodeResponse files) = .ok ⟨files.map File.ofGenerated⟩ :=
  Response.roundTrips.decode_encode (by decide) hlength

/-- The bytes of a text determine it, so a file of the answer determines the generated one. -/
theorem File.ofGenerated_injective : Function.Injective File.ofGenerated := by
  intro file other h
  obtain ⟨name, contents⟩ := file
  obtain ⟨name', contents'⟩ := other
  obtain ⟨rfl, hbytes⟩ := File.mk.inj h
  have hcontents : some contents = some contents' := by
    rw [← Utf8.decode?_encode contents, ← Utf8.decode?_encode contents']
    exact congrArg Utf8.decode? hbytes
  rw [Option.some.inj hcontents]

theorem encodeResponse_injective {files files' : List GeneratedFile}
    (hlength : (encodeResponse files).length < UInt64.size)
    (h : encodeResponse files = encodeResponse files') : files = files' := by
  have hdecode := decode_encodeResponse hlength
  rw [h] at hdecode hlength
  rw [decode_encodeResponse hlength] at hdecode
  have hfiles : files'.map File.ofGenerated = files.map File.ofGenerated :=
    Response.mk.inj (Except.ok.inj hdecode)
  exact (File.ofGenerated_injective.list_map hfiles).symm

theorem run_ok {bytes output : Bytes} : (run bytes).result = .ok output ↔
    ∃ request files, (decodeRequest bytes).result = .ok request ∧
      (generate request).result = .ok files ∧ output = encodeResponse files := by
  rw [run]
  refine Traced.andThen_ok.trans ?_
  constructor
  · rintro ⟨files, hfiles, h⟩
    obtain ⟨request, hrequest, hfiles⟩ := Traced.andThen_ok.mp hfiles
    exact ⟨request, files, hrequest, hfiles, (Except.ok.inj h).symm⟩
  · rintro ⟨request, files, hrequest, hfiles, rfl⟩
    exact ⟨files, Traced.andThen_ok.mpr ⟨request, hrequest, hfiles⟩, rfl⟩

theorem run_error {bytes : Bytes} {failure : Failure} : (run bytes).result = .error failure ↔
    (decodeRequest bytes).result = .error failure ∨
      ∃ request, (decodeRequest bytes).result = .ok request ∧
        (generate request).result = .error failure := by
  rw [run]
  refine Traced.andThen_error.trans ?_
  constructor
  · rintro (h | ⟨files, -, h⟩)
    · exact Traced.andThen_error.mp h
    · cases h
  · intro h
    exact Or.inl (Traced.andThen_error.mpr h)

/-- How the program ends that has read a request and answers on its output. -/
def outcome (bytes : Bytes) : Outcome :=
  match (run bytes).result with
  | .ok output => .succeeded output (run bytes).events
  | .error failure => .failed failure (run bytes).events

theorem outcome_eq (bytes : Bytes) : outcome bytes =
    match (generateFrom .protobuf bytes).result with
    | .ok files => .succeeded (encodeResponse files) (generateFrom .protobuf bytes).events
    | .error failure => .failed failure (generateFrom .protobuf bytes).events := by
  have hrun : run bytes = (generateFrom .protobuf bytes).andThen fun files =>
      .done (encodeResponse files) := rfl
  rw [outcome, hrun, Traced.andThen]
  cases (generateFrom .protobuf bytes).result with
  | error failure => rfl
  | ok files => exact congrArg (Outcome.succeeded _) (List.append_nil _)

/-- Without flags, the program reads its input and answers. -/
theorem run_invocation {m : Type → Type} [Monad m] [LawfulMonad m] (fs : FileSystem m)
    (input : m Bytes) {method : Option String} (hmethod : checkMethod method = .ok ()) :
    Invocation.run fs input { method } = outcome <$> input := by
  have hformat : ({ method } : Invocation).format = .protobuf := rfl
  simp only [Invocation.run, hmethod, hformat, Invocation.readInput, bind_assoc, pure_bind,
    map_eq_pure_bind]
  refine congrArg (input >>= ·) (funext fun bytes => ?_)
  rw [outcome_eq]
  cases (generateFrom .protobuf bytes).result with
  | error failure => rfl
  | ok files => rfl

/-- The answer is faithful. What is written of a list of files, of any number and with any names and
contents, is read back as these names and the bytes of these contents, in the same order; so
different lists have different answers. A run that succeeds answers with the files that are
generated for its request. It fails exactly if the request cannot be decoded or the files cannot
be generated; then it gives no answer, and the program writes nothing to its output. The bounds
are no restriction on bytes that exist: their number has sixty-four bits. -/
theorem answer_faithful :
    (∀ files : List GeneratedFile, (encodeResponse files).length < UInt64.size →
      Response.messageType.decode (encodeResponse files) =
        .ok ⟨files.map fun file => ⟨file.name, Utf8.encode file.contents⟩⟩) ∧
    (∀ files files' : List GeneratedFile, (encodeResponse files).length < UInt64.size →
      encodeResponse files = encodeResponse files' → files = files') ∧
    (∀ bytes output, (run bytes).result = .ok output → output.length < UInt64.size →
      ∃ request files, (decodeRequest bytes).result = .ok request ∧
        (generate request).result = .ok files ∧
        Response.messageType.decode output =
          .ok ⟨files.map fun file => ⟨file.name, Utf8.encode file.contents⟩⟩) ∧
    (∀ bytes failure, (run bytes).result = .error failure ↔
      (decodeRequest bytes).result = .error failure ∨
        ∃ request, (decodeRequest bytes).result = .ok request ∧
          (generate request).result = .error failure) ∧
    (∀ (m : Type → Type) [Monad m] [LawfulMonad m] (fs : FileSystem m) (input : m Bytes)
      (method : Option String), checkMethod method = .ok () →
        Invocation.run fs input { method } = outcome <$> input) ∧
    (∀ bytes, (outcome bytes).output =
      match (run bytes).result with
      | .ok output => output
      | .error _ => []) := by
  refine ⟨?_, ?_, ?_, ?_, ?_, ?_⟩
  · intro files hlength
    exact decode_encodeResponse hlength
  · intro files files' hlength h
    exact encodeResponse_injective hlength h
  · intro bytes output houtput hlength
    obtain ⟨request, files, hrequest, hfiles, rfl⟩ := run_ok.mp houtput
    exact ⟨request, files, hrequest, hfiles, decode_encodeResponse hlength⟩
  · intro bytes failure
    exact run_error
  · intro m _ _ fs input method hmethod
    exact run_invocation fs input hmethod
  · intro bytes
    rw [outcome]
    cases (run bytes).result with
    | ok output => rfl
    | error failure => rfl

def songFiles : List GeneratedFile :=
  [⟨"models.ts", ""⟩, ⟨"", "const canción = 1;\n"⟩, ⟨"", ""⟩]

/-- No bytes at all are a request, and it is answered with two files. -/
theorem answer_faithful_songFiles :
    (encodeResponse songFiles).length < UInt64.size ∧
    Response.messageType.decode (encodeResponse songFiles) =
      .ok ⟨[⟨"models.ts", []⟩, ⟨"", Utf8.encode "const canción = 1;\n"⟩, ⟨"", []⟩]⟩ ∧
    ∃ output request files, (run []).result = .ok output ∧ output.length < UInt64.size ∧
      (decodeRequest []).result = .ok request ∧ (generate request).result = .ok files ∧
      Response.messageType.decode output =
        .ok ⟨files.map fun file => ⟨file.name, Utf8.encode file.contents⟩⟩ := by
  obtain ⟨hdecode, -, hrun, -⟩ := answer_faithful
  have hlength : (encodeResponse songFiles).length < UInt64.size := by decide +kernel
  have hrequest : (decodeRequest []).result = .ok {} := by
    have hempty : (Protobuf.Input.ofBytes []).left ≤ 0 := Nat.le_refl _
    rw [decodeRequest, MessageType.decode, MessageType.mergeFields_done hempty]
    rfl
  have hfiles : (generate {}).result = .ok (TypedSql.Request.files {} []) :=
    generate_ok.mpr ⟨[], rfl, rfl⟩
  have houtput := run_ok.mpr ⟨{}, _, hrequest, hfiles, rfl⟩
  have hshort : (encodeResponse (TypedSql.Request.files {} [])).length < UInt64.size := by
    decide +kernel
  obtain ⟨request, files, hdecoded, hgenerated, hanswer⟩ := hrun [] _ houtput hshort
  exact ⟨hlength, hdecode songFiles hlength, _, request, files, houtput, hshort, hdecoded,
    hgenerated, hanswer⟩

end TypedSql.Plugin
