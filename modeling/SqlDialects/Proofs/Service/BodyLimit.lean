import Mathlib.Data.List.TakeWhile
import SqlDialects.Service.Answer

/-!
# Limited bodies

The limit on a request counts bytes, however they are cut into chunks: a body is admitted as a
whole exactly when neither its declared length nor its bytes exceed the limit, and no more than
the limit is kept on the way (`Service.answer_bodyLimit`).
-/

namespace SqlDialects.Service

/-! ## Buffers -/

/-- What a buffer holds after some chunks: their bytes, no more than the limit. -/
structure BodyBuffer.Holds (buffer : BodyBuffer) (limit : Nat) (read : List (List UInt8)) :
    Prop where
  bytes : buffer.bytes = read.flatten
  size : buffer.size = read.flatten.length
  within : read.flatten.length ≤ limit

theorem BodyBuffer.holds_empty (limit : Nat) : BodyBuffer.Holds {} limit [] :=
  ⟨rfl, rfl, Nat.zero_le limit⟩

variable {limit : Nat} {buffer next : BodyBuffer} {read chunks : List (List UInt8)}

theorem BodyBuffer.Holds.push (hBuffer : buffer.Holds limit read) (chunk : List UInt8) :
    (∃ next, buffer.push? limit chunk = some next ∧ next.Holds limit (read ++ [chunk])) ∨
      (buffer.push? limit chunk = none ∧ limit < (read ++ [chunk]).flatten.length) := by
  have hLength : (read ++ [chunk]).flatten.length = read.flatten.length + chunk.length := by simp
  have hSize := hBuffer.size
  by_cases hLimit : limit < buffer.size + chunk.length
  · right
    exact ⟨by simp [push?, hLimit], by omega⟩
  · left
    refine ⟨⟨chunk :: buffer.chunks, buffer.size + chunk.length⟩, by simp [push?, hLimit],
      ?_, by rw [hLength, hSize], by omega⟩
    have hBytes := hBuffer.bytes
    simp only [BodyBuffer.bytes] at hBytes
    simp [BodyBuffer.bytes, hBytes]

theorem BodyBuffer.Holds.collectBody (hBuffer : buffer.Holds limit read)
    (chunks : List (List UInt8)) :
    (∃ next, collectBody limit buffer chunks = some next ∧ next.Holds limit (read ++ chunks)) ∨
      (collectBody limit buffer chunks = none ∧ limit < (read ++ chunks).flatten.length) := by
  -- The induction moves one chunk after another from the rest to what the buffer holds.
  induction chunks generalizing buffer read with
  | nil => exact .inl ⟨buffer, rfl, by simpa using hBuffer⟩
  | cons chunk chunks ih =>
      rcases hBuffer.push chunk with ⟨next, hNext, hHolds⟩ | ⟨hNone, hLimit⟩
      · simpa [Service.collectBody, hNext] using ih hHolds
      · right
        refine ⟨by simp [Service.collectBody, hNone], ?_⟩
        simp only [List.flatten_append, List.length_append, List.flatten_cons, List.flatten_nil,
          List.length_nil] at hLimit ⊢
        omega

theorem holds_of_collectBody (hBuffer : collectBody limit {} chunks = some buffer) :
    buffer.Holds limit chunks := by
  rcases (BodyBuffer.holds_empty limit).collectBody chunks with ⟨next, hNext, hHolds⟩ | ⟨hNone, -⟩
  · obtain rfl : next = buffer := by simpa [hNext] using hBuffer
    exact hHolds
  · simp [hNone] at hBuffer

/-! ## Declared lengths -/

/-- The request declares a length by a numeral. -/
def Request.Declares (request : Request) (length : Int) : Prop :=
  ∃ text, request.header? "content-length" = some text ∧ Number.readInteger .ten text = .ok length

/-- The declared length is more than the limit, or the bytes of the chunks are. -/
def Request.Exceeds (request : Request) (limit : Nat) : Prop :=
  (∃ length, request.Declares length ∧ (limit : Int) < length) ∨
    limit < request.chunks.flatten.length

variable {request : Request}

theorem declaredLength?_of_none (hNone : request.header? "content-length" = none) :
    declaredLength? request = .ok none := by
  simp [declaredLength?, hNone]

theorem Request.Declares.declaredLength? {length : Int} (hDeclares : request.Declares length) :
    declaredLength? request = .ok (some length) := by
  obtain ⟨text, hText, hLength⟩ := hDeclares
  simp [Service.declaredLength?, hText, hLength, Except.mapError, Except.map]

theorem Request.Declares.unique {length other : Int} (hDeclares : request.Declares length)
    (hOther : request.Declares other) : other = length := by
  simpa [hDeclares.declaredLength?] using hOther.declaredLength?.symm

theorem collectBody_cases (limit : Nat) (chunks : List (List UInt8)) :
    (∃ buffer, collectBody limit {} chunks = some buffer ∧ buffer.bytes = chunks.flatten ∧
        ¬limit < chunks.flatten.length) ∨
      (collectBody limit {} chunks = none ∧ limit < chunks.flatten.length) := by
  rcases (BodyBuffer.holds_empty limit).collectBody chunks with
    ⟨buffer, hBuffer, hHolds⟩ | ⟨hNone, hLimit⟩
  · exact .inl ⟨buffer, hBuffer, hHolds.bytes, Nat.not_lt.2 hHolds.within⟩
  · exact .inr ⟨hNone, hLimit⟩

/-- What becomes of a body depends on the declared length and on all bytes together. -/
theorem admission_cases (hMethod : readsBody request.method = true)
    (hLength : request.header? "content-length" = none ∨ ∃ length, request.Declares length) :
    (request.Exceeds (bodyLimit request.path) ∧
        admission request = .tooLarge (bodyLimit request.path)) ∨
      (¬request.Exceeds (bodyLimit request.path) ∧
        admission request = .admitted request.chunks.flatten) := by
  have hDeclared : ∃ declared, declaredLength? request = .ok declared ∧
      ∀ length, request.Declares length ↔ declared = some length := by
    rcases hLength with hNone | ⟨length, hDeclares⟩
    · refine ⟨none, declaredLength?_of_none hNone, fun length => ?_⟩
      simp [Request.Declares, hNone]
    · refine ⟨some length, hDeclares.declaredLength?, fun other => ?_⟩
      rw [Option.some.injEq]
      exact ⟨fun hOther => (hDeclares.unique hOther).symm, fun hEqual => hEqual ▸ hDeclares⟩
  obtain ⟨declared, hDeclared, hDeclares⟩ := hDeclared
  -- Only a request whose declared length is within the limit has its chunks read.
  by_cases hLarge : ∃ length, declared = some length ∧ (bodyLimit request.path : Int) < length
  · obtain ⟨length, rfl, hLimit⟩ := hLarge
    exact .inl ⟨.inl ⟨length, (hDeclares length).2 rfl, hLimit⟩, by
      simp [admission, hDeclared, hLimit]⟩
  · have hSmall : (declared.any fun length => decide ((bodyLimit request.path : Int) < length)) =
        false := by
      cases declared with
      | none => rfl
      | some length => simpa using hLarge
    rcases collectBody_cases (bodyLimit request.path) request.chunks with
      ⟨buffer, hBuffer, hBytes, hFits⟩ | ⟨hNone, hLimit⟩
    · refine .inr ⟨?_, by simp [admission, hDeclared, hSmall, hMethod, hBuffer, hBytes]⟩
      rintro (⟨length, hOther, hLimit⟩ | hLimit)
      · exact hLarge ⟨length, (hDeclares length).1 hOther, hLimit⟩
      · exact hFits hLimit
    · exact .inl ⟨.inr hLimit, by simp [admission, hDeclared, hSmall, hMethod, hNone]⟩

/-! ## The answer -/

/-- Once the body has been admitted its chunks do not count. -/
theorem answerRoute_chunks (settings : Settings) (request : Request)
    (chunks : List (List UInt8)) (body : List UInt8) :
    answerRoute settings { request with chunks := chunks } body =
      answerRoute settings request body := rfl

/-- Requests that differ in their chunks only, and not in the bytes of these, are answered
alike. -/
theorem answer_chunks (settings : Settings) {request : Request} {chunks : List (List UInt8)}
    (hMethod : readsBody request.method = true)
    (hLength : request.header? "content-length" = none ∨ ∃ length, request.Declares length)
    (hBytes : chunks.flatten = request.chunks.flatten) :
    answer settings { request with chunks := chunks } = answer settings request := by
  have hSame : ({ request with chunks := chunks } : Request).Exceeds (bodyLimit request.path) ↔
      request.Exceeds (bodyLimit request.path) := by
    simp only [Request.Exceeds, hBytes]
    exact Iff.rfl
  rcases admission_cases hMethod hLength with ⟨hExceeds, hHere⟩ | ⟨hFits, hHere⟩ <;>
    rcases @admission_cases { request with chunks := chunks } hMethod hLength with
      ⟨hOther, hThere⟩ | ⟨hOther, hThere⟩
  · rw [answer, answer, hHere, hThere]
  · exact absurd (hSame.2 hExceeds) hOther
  · exact absurd (hSame.1 hOther) hFits
  · rw [answer, answer, hHere, hThere]
    simp only [hBytes, answerRoute_chunks]

theorem urlPath_eq_self {path : String}
    (hPlain : ∀ c ∈ path.toList, c ∉ ['?', '#', '\t', '\r', '\n']) : urlPath path = path := by
  have hTaken : (path.toList.takeWhile fun c => c != '?' && c != '#') = path.toList :=
    List.takeWhile_eq_self_iff.2 fun c hMember => by
      have hOther := hPlain c hMember
      simp only [List.mem_cons, not_or] at hOther
      simp [hOther.1, hOther.2.1]
  have hKept : (path.toList.filter fun c => c != '\t' && c != '\r' && c != '\n') = path.toList :=
    List.filter_eq_self.2 fun c hMember => by
      have hOther := hPlain c hMember
      simp only [List.mem_cons, not_or] at hOther
      simp [hOther.2.2.1, hOther.2.2.2.1, hOther.2.2.2.2.1]
  rw [urlPath, hTaken, hKept, String.ofList_toList]

/-! ## The theorem -/

/-- A body is refused exactly when its declared length or its size exceeds the limit of the
path, and handed on as a whole otherwise.  So the answer does not depend on the chunks.
Whatever has been kept after some of the chunks is within the limit. -/
theorem answer_bodyLimit (settings : Settings) {request : Request}
    (hMethod : request.method ∈ ["POST", "PUT", "PATCH"])
    (hLength : request.header? "content-length" = none ∨ ∃ length, request.Declares length)
    {limit : Nat} (hLimit : limit =
      if (urlPath request.path).endsWith "/ddl/schema" then 2 * 1024 * 1024 else 256 * 1024) :
    ((admission request = .tooLarge limit ↔ request.Exceeds limit) ∧
      (request.Exceeds limit → answer settings request =
        .ok (.refusing 413 (.text (bodyLimitMessage limit)))) ∧
      (¬request.Exceeds limit → admission request = .admitted request.chunks.flatten ∧
        answer settings request =
          (answerRoute settings request request.chunks.flatten).bind send)) ∧
      (∀ chunks, chunks.flatten = request.chunks.flatten →
        answer settings { request with chunks := chunks } = answer settings request) ∧
      (∀ read unread buffer, request.chunks = read ++ unread →
        collectBody limit {} read = some buffer →
          buffer.bytes = read.flatten ∧ buffer.bytes.length ≤ limit) ∧
      ((∀ c ∈ request.path.toList, c ∉ ['?', '#', '\t', '\r', '\n']) →
        urlPath request.path = request.path) := by
  have hReads : readsBody request.method = true := by
    simpa [readsBody, or_assoc] using hMethod
  obtain rfl : limit = bodyLimit request.path := hLimit
  refine ⟨?_, fun chunks hBytes => answer_chunks settings hReads hLength hBytes, ?_,
    urlPath_eq_self⟩
  · rcases admission_cases hReads hLength with ⟨hExceeds, hRefused⟩ | ⟨hFits, hAdmitted⟩
    · exact ⟨⟨fun _ => hExceeds, fun _ => hRefused⟩, fun _ => by rw [answer, hRefused],
        fun hFits => absurd hExceeds hFits⟩
    · refine ⟨⟨fun hRefused => ?_, fun hExceeds => absurd hExceeds hFits⟩,
        fun hExceeds => absurd hExceeds hFits, fun _ => ⟨hAdmitted, by rw [answer, hAdmitted]⟩⟩
      rw [hAdmitted] at hRefused
      cases hRefused
  · intro read unread buffer hChunks hBuffer
    have hHolds := holds_of_collectBody hBuffer
    exact ⟨hHolds.bytes, hHolds.bytes ▸ hHolds.within⟩

/-- A body of as many bytes as the limit has, in three chunks of which one is empty. -/
def fullRequest : Request where
  method := "PUT"
  path := "/ddl/create-table"
  query := ""
  host := "test"
  headers := [("content-length", " +262_144 ")]
  chunks := [List.replicate usualBodyLimit.pred 0, [], [0]]

theorem fullRequest_declares : fullRequest.Declares usualBodyLimit :=
  ⟨" +262_144 ", by decide +kernel, rfl⟩

theorem fullRequest_bytes : fullRequest.chunks.flatten = List.replicate usualBodyLimit 0 := by
  rw [show usualBodyLimit = usualBodyLimit.pred + 1 from rfl, List.replicate_succ']
  rfl

theorem fullRequest_fits : ¬fullRequest.Exceeds usualBodyLimit := by
  rintro (⟨length, hOther, hLarge⟩ | hLarge)
  · rw [fullRequest_declares.unique hOther] at hLarge
    exact Int.lt_irrefl _ hLarge
  · rw [fullRequest_bytes, List.length_replicate] at hLarge
    exact Nat.lt_irrefl _ hLarge

theorem answer_bodyLimit_fullRequest :
    admission fullRequest = .admitted (List.replicate usualBodyLimit 0) ∧
      ∀ settings,
        answer settings { fullRequest with chunks := [List.replicate usualBodyLimit 0] } =
          answer settings fullRequest := by
  have hTheorem (settings : Settings) := @answer_bodyLimit settings fullRequest (by decide)
    (.inr ⟨_, fullRequest_declares⟩) usualBodyLimit (by decide +kernel)
  refine ⟨?_, fun settings => ?_⟩
  · rw [← fullRequest_bytes]
    exact ((hTheorem {}).1.2.2 fullRequest_fits).1
  · exact (hTheorem settings).2.1 _ (by rw [fullRequest_bytes, List.flatten_singleton])

end SqlDialects.Service
