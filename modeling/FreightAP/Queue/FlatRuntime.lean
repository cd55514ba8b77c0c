import FreightAP.Lib.FlatJson
import FreightAP.Queue.Delivery

/-!
# A queue of one job

A runtime that reads and writes flat JSON objects, and knows one job.  Its
encoder and decoder are inverse (`flatRuntime_inverse`).

What the texts of the job decode to is looked up and not computed, so that runs
of the queue can be evaluated.  `dumps_eq` and `loads_eq` say that it is what the
encoder and the decoder make of them, and `flatRuntime_eq` that it is a runtime
which is evaluated faster.
-/

namespace FreightAP

/-! ## The texts of a job -/

/-- The characters of the dump of a job of the key `a…a`. -/
def sampleChars : List Char :=
  '{' :: "\"schema_version\":1,".toList ++ "\"idempotency_key\":".toList ++
    '"' :: List.replicate 64 'a' ++ "\",\"gmail_account\":".toList ++
    "\"ap@example.com\",".toList ++ "\"message_id\":\"m1\",".toList ++
    "\"gmail_thread_id\":\"t1\",".toList ++ "\"mime_part_id\":\"1\",".toList ++
    "\"filename\":".toList ++ "\"invoice.pdf\",".toList ++ "\"file_bytes\":\"AA==\",".toList ++
    "\"content_sha256\":\"".toList ++ "6e340b9cffb37a989ca544e6bb780a2c".toList ++
    "78901d3fb33738768511a30617afa01d".toList ++ "\",\"enqueued_at\":".toList ++
    "\"1970-01-01T00:00:00Z\"".toList ++ ['}']

/-- The dump of a job of the key `a…a`. -/
def samplePayload : String := String.ofList sampleChars

/-- A request. -/
def sampleRequest : String := "0b5d2d0c-8f0e-4a55-9d2f-6c1f3f3b7a10"

/-- The fields of an enqueued entry. -/
def sampleFields : Fields := [("payload", samplePayload)]

/-- The fields of a replayed entry. -/
def replayedFields : Fields :=
  [("payload", samplePayload), ("replay_dlq_id", "2-0"), ("replay_request_id", sampleRequest)]

/-- Fields as characters. -/
def fieldChars (fields : Fields) : List (List Char × List Char) :=
  fields.map fun (k, v) => (k.toList, v.toList)

/-- The dump of the fields of an enqueued entry. -/
def sampleDump : String := String.ofList (FlatJson.encode [("payload".toList, sampleChars)])

/-- The dump of the fields of a replayed entry. -/
def replayedDump : String := String.ofList (FlatJson.encode
  [("payload".toList, sampleChars), ("replay_dlq_id".toList, "2-0".toList),
    ("replay_request_id".toList, sampleRequest.toList)])

theorem decode_sampleChars : (FlatJson.decode sampleChars).isSome = true := by decide +kernel

/-! ## The runtime -/

/-- Flat JSON, with one job. -/
@[reducible] def flatRuntime : QueueRuntime where
  dumps fields :=
    if fields = sampleFields then sampleDump
    else if fields = replayedFields then replayedDump
    else String.ofList (FlatJson.encode (fieldChars fields))
  loads raw :=
    if raw = samplePayload then .object ((FlatJson.decode sampleChars).getD [])
    else if raw = sampleDump then .object (sampleFields.map fun (k, v) => (k, some v))
    else if raw = replayedDump then .object (replayedFields.map fun (k, v) => (k, some v))
    else
      match FlatJson.decode raw.toList with
      | some ms => .object ms
      | none => .invalid "Expecting value: line 1 column 1 (char 0)"
  modelValidate raw :=
    if raw = samplePayload then .ok (sampleJob 'a')
    else .error "1 validation error for InvoiceJobEnvelope"
  modelDumpJson job := if job = sampleJob 'a' then samplePayload else ""

theorem dumps_eq (fields : Fields) :
    flatRuntime.dumps fields = String.ofList (FlatJson.encode (fieldChars fields)) := by
  have hchars : samplePayload.toList = sampleChars := by
    rw [samplePayload, String.toList_ofList]
  show (if fields = sampleFields then _ else if fields = replayedFields then _ else _) = _
  split
  next h =>
    subst h
    rw [sampleDump]
    simp only [fieldChars, sampleFields, List.map_cons, List.map_nil, hchars]
  · split
    next h =>
      subst h
      rw [replayedDump]
      simp only [fieldChars, replayedFields, List.map_cons, List.map_nil, hchars]
    · rfl

/-- The dump of fields decodes to the fields. -/
theorem decode_dumps (fields : Fields) : FlatJson.decode (flatRuntime.dumps fields).toList =
    some (fields.map fun (k, v) => (k, some v)) := by
  rw [dumps_eq, String.toList_ofList, FlatJson.decode_encode, fieldChars, List.map_map]
  simp only [Function.comp_def, String.ofList_toList]

theorem loads_eq (raw : String) : flatRuntime.loads raw =
    match FlatJson.decode raw.toList with
    | some ms => .object ms
    | none => .invalid "Expecting value: line 1 column 1 (char 0)" := by
  have hdump : flatRuntime.dumps sampleFields = sampleDump := if_pos rfl
  have hne : replayedFields ≠ sampleFields := fun h => by cases congrArg List.length h
  have hreplayed : flatRuntime.dumps replayedFields = replayedDump :=
    (if_neg hne).trans (if_pos rfl)
  show (if raw = samplePayload then _ else if raw = sampleDump then _
    else if raw = replayedDump then _ else _) = _
  split
  next h =>
    obtain ⟨ms, hms⟩ := Option.isSome_iff_exists.mp decode_sampleChars
    rw [h, samplePayload, String.toList_ofList, hms]
    rfl
  · split
    next h => rw [h, ← hdump, decode_dumps]
    · split
      next h => rw [h, ← hreplayed, decode_dumps]
      · rfl

theorem textMembers?_map (f : Fields) :
    textMembers? (f.map fun (k, v) => (k, some v)) = some f := by
  induction f with
  | nil => rfl
  | cons kv f ih =>
      unfold textMembers? at ih ⊢
      rw [List.map_cons, List.mapM_cons, ih]
      rfl

theorem flatRuntime_inverse : @JsonInverse flatRuntime := by
  refine @JsonInverse.mk flatRuntime (fun f => ⟨f.map fun (k, v) => (k, some v), f, ?_,
    textMembers?_map f, fun _ => rfl⟩) fun raw job h => ?_
  · rw [loads_eq, decode_dumps]
  · have hjob : sampleJob 'a' = job := by
      by_cases hraw : raw = samplePayload
      · exact Except.ok.inj ((if_pos hraw).symm.trans h)
      · cases (if_neg hraw).symm.trans h
    subst hjob
    have hdump : flatRuntime.modelDumpJson (sampleJob 'a') = samplePayload := if_pos rfl
    rw [hdump]
    exact ⟨⟨_, if_pos rfl⟩, if_pos rfl⟩

/-! ## Evaluation

`String.ofList` lays out the bytes of a text one after the other, and comparing
two texts of `n` bytes takes `n ^ 2` steps of the kernel.  The same runtime on
texts that are laid out at once: runs are evaluated in it. -/

/-- The text of characters, with its bytes at once. -/
def textOf (chars : List Char) : String :=
  ⟨⟨⟨chars.flatMap String.utf8EncodeChar⟩⟩,
    .intro chars (congrArg ByteArray.mk List.data_toByteArray.symm)⟩

theorem textOf_eq (chars : List Char) : textOf chars = String.ofList chars := by
  unfold textOf String.ofList
  congr 1
  exact congrArg ByteArray.mk List.data_toByteArray.symm

@[inherit_doc samplePayload]
def quickPayload : String := textOf sampleChars

@[inherit_doc sampleFields]
def quickFields : Fields := [("payload", quickPayload)]

@[inherit_doc replayedFields]
def quickReplayed : Fields :=
  [("payload", quickPayload), ("replay_dlq_id", "2-0"), ("replay_request_id", sampleRequest)]

@[inherit_doc sampleDump]
def quickDump : String := textOf (FlatJson.encode [("payload".toList, sampleChars)])

@[inherit_doc replayedDump]
def quickReplayedDump : String := textOf (FlatJson.encode
  [("payload".toList, sampleChars), ("replay_dlq_id".toList, "2-0".toList),
    ("replay_request_id".toList, sampleRequest.toList)])

@[inherit_doc flatRuntime, reducible]
def quickRuntime : QueueRuntime where
  dumps fields :=
    if fields = quickFields then quickDump
    else if fields = quickReplayed then quickReplayedDump
    else textOf (FlatJson.encode (fieldChars fields))
  loads raw :=
    if raw = quickPayload then .object ((FlatJson.decode sampleChars).getD [])
    else if raw = quickDump then .object (quickFields.map fun (k, v) => (k, some v))
    else if raw = quickReplayedDump then .object (quickReplayed.map fun (k, v) => (k, some v))
    else
      match FlatJson.decode raw.toList with
      | some ms => .object ms
      | none => .invalid "Expecting value: line 1 column 1 (char 0)"
  modelValidate raw :=
    if raw = quickPayload then .ok (sampleJob 'a')
    else .error "1 validation error for InvoiceJobEnvelope"
  modelDumpJson job := if job = sampleJob 'a' then quickPayload else ""

theorem sampleFields_eq : sampleFields = quickFields := by
  unfold quickFields quickPayload
  rw [textOf_eq]
  rfl

theorem flatRuntime_eq : flatRuntime = quickRuntime := by
  unfold quickRuntime quickFields quickReplayed quickDump quickReplayedDump quickPayload
  simp only [textOf_eq]
  rfl

theorem quickRuntime_inverse : @JsonInverse quickRuntime := flatRuntime_eq ▸ flatRuntime_inverse

end FreightAP
