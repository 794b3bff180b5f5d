import WorkloadOperator.Json.Outline

/-!
# Channels

A channel is a messaging service that an Instance talks through.  An Instance
declares channels, and its status reports for each declaration whether the
workload that serves it is up.
-/

namespace WorkloadOperator

/-- A messaging service. -/
inductive Channel where
  | telegram
  | whatsapp
  | discord
  | slack
  deriving DecidableEq, Repr

namespace Channel

/-- The name of a channel in manifests and in child names. -/
def name : Channel → String
  | .telegram => "telegram"
  | .whatsapp => "whatsapp"
  | .discord => "discord"
  | .slack => "slack"

/-- All channels in the order in which they are listed. -/
def all : List Channel := [.telegram, .whatsapp, .discord, .slack]

/-- Whether the adapter keeps a linked session on disk, which has to survive a
restart. -/
def keepsSession : Channel → Bool
  | .whatsapp => true
  | .telegram | .discord | .slack => false

/-- A channel as JSON. -/
def encode (c : Channel) : Json := .str c.name

/-- Read a channel. -/
def decode : Json → Decode.Result Channel := Decode.variant (all.map fun c => (c.name, c))

/-- The outline of a channel. -/
def outline : Outline := .variant (all.map name)

/-- A channel as an Instance declares it. -/
structure Declaration where
  channel : Channel
  /-- The secret whose keys become the environment of the adapter. -/
  secret : Option String := none
  deriving DecidableEq

namespace Declaration

/-- A declaration as JSON. -/
def encode (d : Declaration) : Json :=
  .record [("configSecretRef", d.secret.map .str), ("type", some d.channel.encode)]

/-- How a declaration stands as a sequence. -/
def shape : Decode.Positional := ⟨"ChannelSpec", 2⟩

/-- Read a declaration. -/
def decode : Json → Decode.Result Declaration :=
  shape.decode
    (fun members => do
      let secret ← Decode.member? "configSecretRef" (Decode.optional Decode.string) members
      let channel ← Decode.member? "type" Channel.decode members
      .ok { channel := ← Decode.required "type" channel, secret := secret.join })
    (fun items => do
      let channel ← shape.item 0 Channel.decode none items
      let secret ← shape.item 1 (Decode.optional Decode.string) (some none) items
      .ok { channel, secret })

/-- The outline of a declaration. -/
def outline : Outline :=
  .positional shape [
    { key := "type", outline := Channel.outline, presence := .owed },
    { key := "configSecretRef", outline := .optional .text }]

end Declaration

/-- Whether the workload of a channel is up. -/
inductive Link where
  /-- The workload is being created. -/
  | pending
  /-- The workload has a ready replica. -/
  | connected
  /-- The workload has no ready replica. -/
  | disconnected
  deriving DecidableEq, Repr

namespace Link

/-- The name of a link state. -/
def name : Link → String
  | .pending => "Pending"
  | .connected => "Connected"
  | .disconnected => "Disconnected"

/-- All link states in the order in which they are listed. -/
def all : List Link := [.pending, .connected, .disconnected]

/-- A link state as JSON. -/
def encode (l : Link) : Json := .str l.name

/-- Read a link state. -/
def decode : Json → Decode.Result Link := Decode.variant (all.map fun l => (l.name, l))

/-- The outline of a link state. -/
def outline : Outline := .variant (all.map name)

end Link

/-- What the status says of one declared channel. -/
structure Report where
  channel : Channel
  link : Link
  deriving DecidableEq, Repr

namespace Report

/-- A report as JSON. -/
def encode (r : Report) : Json :=
  .record [("status", some r.link.encode), ("type", some r.channel.encode)]

/-- How a report stands as a sequence. -/
def shape : Decode.Positional := ⟨"ChannelStatus", 2⟩

/-- Read a report. -/
def decode : Json → Decode.Result Report :=
  shape.decode
    (fun members => do
      let link ← Decode.member? "status" Link.decode members
      let channel ← Decode.member? "type" Channel.decode members
      let channel ← Decode.required "type" channel
      .ok { channel, link := ← Decode.required "status" link })
    (fun items => do
      let channel ← shape.item 0 Channel.decode none items
      let link ← shape.item 1 Link.decode none items
      .ok { channel, link })

/-- The outline of a report. -/
def outline : Outline :=
  .positional shape [
    { key := "type", outline := Channel.outline, presence := .owed },
    { key := "status", outline := Link.outline, presence := .owed }]

end Report

end Channel

end WorkloadOperator
