import FleetControl.Job.Basic
import FleetControl.Wire.Scalar

/-!
# Written form of jobs
-/

namespace FleetControl
namespace Wire

open Json

def jobStatus : Decoder Job.Status :=
  wordIn Job.Status.all Job.Status.word

def ofJob (j : Job) : Json :=
  .object
    [("id", .text j.id), ("type", .text j.type), ("payload", ofPayload j.payload),
     ("status", .text j.status.word), ("locked_by", ofText? j.lockedBy),
     ("lock_token", ofText? j.lockToken), ("lock_expires_at", ofInstant? j.lockExpiresAt),
     ("created_at", ofInstant j.createdAt), ("updated_at", ofInstant j.updatedAt),
     ("seq", ofUInt64 j.seq), ("created_by", ofText? j.createdBy)]

def job : Decoder Job :=
  Record.decode
    (Job.mk <$> .required "id" Decoder.text
      <*> .required "type" Decoder.text
      <*> .required "payload" payload
      <*> .required "status" jobStatus
      <*> .optional "locked_by" Decoder.text
      <*> .optional "lock_token" Decoder.text
      <*> .optional "lock_expires_at" instant
      <*> .required "created_at" instant
      <*> .required "updated_at" instant
      <*> .required "seq" Decoder.uint64
      <*> .defaultedOption "created_by" Decoder.text)

def ofResult (r : Job.Result) : Json :=
  .object
    [("job_id", .text r.jobId), ("status", .text r.status.word),
     ("output", ofMembers r.output), ("completed_at", ofInstant r.completedAt)]

def result : Decoder Job.Result :=
  Record.decode
    (Job.Result.mk <$> .required "job_id" Decoder.text
      <*> .required "status" jobStatus
      <*> .required "output" Decoder.members
      <*> .required "completed_at" instant)

def ofLogLine (l : Job.LogLine) : Json :=
  .object
    [("job_id", .text l.jobId), ("message", .text l.message),
     ("progress", ofOption ofUInt8 l.progress), ("created_at", ofInstant l.createdAt)]

def logLine : Decoder Job.LogLine :=
  Record.decode
    (Job.LogLine.mk <$> .required "job_id" Decoder.text
      <*> .required "message" Decoder.text
      <*> .optional "progress" Decoder.uint8
      <*> .required "created_at" instant)

def ofOrder (o : Job.Order) : Json :=
  .object
    [("type", .text o.type), ("payload", ofPayload o.payload),
     ("created_by", ofText? o.createdBy)]

def order : Decoder Job.Order :=
  Record.decode
    (Job.Order.mk <$> .required "type" Decoder.text
      <*> .defaulted "payload" payload Table.empty
      <*> .defaultedOption "created_by" Decoder.text)

end Wire
end FleetControl
