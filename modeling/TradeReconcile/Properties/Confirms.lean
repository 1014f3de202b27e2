import TradeReconcile.Messaging.Publisher
import TradeReconcile.Transitions

/-!
# Whose confirm `publish` has read

`waitConfirm` reads one frame and does not look at its delivery tag. That the confirm
belongs to the message at hand rests on what a call leaves behind: no connection, or
one that was set up completely and whose every message was confirmed. Such a
connection has no confirm on the way, so the next one to arrive answers the next
message; and whenever a call does not see its confirm it gives the connection up.
-/

namespace TradeReconcile

namespace MqClient

open Scripts Amqp

/-- The steps of a set-up that have succeeded. -/
structure Setup where
  channelOpen : Bool
  exchangeDeclared : Bool
  confirmMode : Bool
deriving DecidableEq, Repr

/-- A connection on which nothing has been set up. -/
def Setup.none : Setup := ⟨false, false, false⟩

/-- Channel, exchange and confirm mode. -/
def Setup.complete : Setup := ⟨true, true, true⟩

/-- What a call knows of its connection: how far it is set up, whether its own message was
sent, and whether its confirm was read. -/
inductive Stage where
  /-- There is no connection, or a complete one with nothing under way. -/
  | settled
  /-- There is one with nothing under way, and this much was set up. -/
  | building (setup : Setup)
  /-- The message of this call was published on a complete one. -/
  | sent
  /-- The confirm of this call was read from a complete one. -/
  | confirmed
deriving DecidableEq, Repr

/-- A connection that is set up. -/
def Stage.ready : Stage := .building .complete

/-- The setup is under way. -/
def Stage.isBuilding : Stage → Bool
  | .building _ => true
  | _ => false

/-- A message is published on a connection that is set up and idle, and a frame is read
after that. Library calls do not throw. -/
def linking : Protocol Amqp.Request (fun r => Except Fault (Amqp.Reply r)) Stage where
  permits stage
    | .channelOpen => stage.isBuilding = true
    | .exchangeDeclare exchange _ => exchange = kExchangeName ∧ stage.isBuilding = true
    | .confirmSelect => stage.isBuilding = true
    | .basicPublish _ _ _ => stage = .ready
    | .waitFrame _ => stage = .sent
    | .queueDeclare _ _ => False
    | .queueBind _ _ _ => False
    | .basicConsume _ => False
    | _ => True
  answers _ reply := reply.isOk = true
  after
    | _, .connected, .ok false => .settled
    | .settled, .connected, .ok true => .ready
    | _, .newConnection, _ => .building .none
    | .building setup, .channelOpen, .ok true => .building { setup with channelOpen := true }
    | .building setup, .exchangeDeclare _ _, .ok true =>
      .building { setup with exchangeDeclared := true }
    | .building setup, .confirmSelect, .ok true => .building { setup with confirmMode := true }
    | _, .basicPublish _ _ _, _ => .sent
    | .sent, .waitFrame _, .ok (some (.basicAck _)) => .confirmed
    | _, .destroyConnection, _ => .settled
    | stage, _, _ => stage

/-- The outcome of a step that gives the connection up when it fails. -/
def Leaves (value : Stage) (stage : Stage) (outcome : Except Fault Bool) : Prop :=
  (outcome = .ok true ∧ stage = value) ∨ (outcome = .ok false ∧ stage = .settled)

/-- A library call returns. -/
theorem linking_call {α : Type} {r : Amqp.Request} {next : Amqp.Reply r → Client α}
    {accepted : Stage → Except Fault α → Prop} {stage : Stage} (permitted : linking.permits stage r)
    (continues : ∀ value, Script.Follows linking accepted (linking.after stage r (.ok value))
      (next value)) :
    Script.Follows linking accepted stage (Amqp.request r >>= next : Client α) := by
  apply follows_perform permitted
  · intro value _
    exact continues value
  · intro fault returned
    cases returned

/-- After `close` the connection is settled. -/
theorem close_settles (stage : Stage) :
    Script.Follows linking (fun after outcome => outcome = .ok () ∧ after = .settled) stage close := by
  apply linking_call (r := .connected) trivial
  intro connected
  cases connected with
  | false => exact ⟨rfl, by cases stage <;> rfl⟩
  | true =>
    apply linking_call (r := .connectionClose) trivial
    intro _
    refine ⟨trivial, ?_⟩
    rintro (fault | value) returned
    · cases returned
    · exact ⟨rfl, by cases stage <;> rfl⟩

/-- A call that leads from one stage to another if it succeeds. -/
def Leads (call : Client Bool) (before after : Stage) : Prop :=
  Script.Follows linking (fun stage outcome =>
    outcome = .ok true ∧ stage = after ∨ outcome = .ok false) before call

/-- A failed attempt is cleaned up, a successful one goes on. -/
theorem Leads.orElse {call next : Client Bool} {value before after : Stage}
    (leads : Leads call before after)
    (continues : Script.Follows linking (Leaves value) after next) :
    Script.Follows linking (Leaves value) before (Amqp.orElse close call next) := by
  apply follows_orElse
  apply leads.mono
  rintro stage outcome (⟨rfl, rfl⟩ | rfl)
  · exact .inl ⟨rfl, continues⟩
  · refine .inr ⟨rfl, (close_settles stage).mono ?_⟩
    rintro _ _ ⟨rfl, rfl⟩
    exact ⟨rfl, .inr ⟨rfl, rfl⟩⟩

/-- The calls that make a connection. -/
theorem connecting_leads (setup : Setup) :
    let stage := Stage.building setup
    Leads (Amqp.request .tcpSocketNew) stage stage ∧ Leads (Amqp.request .socketOpen) stage stage ∧
      Leads (Amqp.request .login) stage stage ∧
      Leads (Amqp.request .channelOpen) stage (.building { setup with channelOpen := true }) ∧
      Leads declareExchange stage (.building { setup with exchangeDeclared := true }) ∧
      Leads (Amqp.request .confirmSelect) stage (.building { setup with confirmMode := true }) := by
  refine ⟨?_, ?_, ?_, ?_, ?_, ?_⟩ <;>
  · constructor
    · simp [linking, Stage.isBuilding]
    · rintro (fault | _ | _) returned
      · cases returned
      · exact .inr rfl
      · exact .inl ⟨rfl, rfl⟩

/-- A settled connection is kept if there is one, else one is set up. -/
theorem ensureConnected_leaves :
    Script.Follows linking (Leaves .ready) .settled ensureConnected := by
  apply linking_call (r := .connected) trivial
  intro connected
  cases connected with
  | true => exact .inl ⟨rfl, rfl⟩
  | false =>
    apply linking_call (r := .newConnection) trivial
    intro _
    obtain ⟨socket, opened, login, channel, -⟩ := connecting_leads .none
    obtain ⟨-, -, -, -, declared, -⟩ := connecting_leads ⟨true, false, false⟩
    obtain ⟨-, -, -, -, -, selected⟩ := connecting_leads ⟨true, true, false⟩
    have ends : Script.Follows linking (Leaves .ready) .ready (pure true : Client Bool) :=
      .inl ⟨rfl, rfl⟩
    exact socket.orElse <| opened.orElse <| login.orElse <| channel.orElse <|
      declared.orElse <| selected.orElse ends

/-- Connecting anew ends with a complete setup or with none at all. -/
theorem reconnect_leaves : Script.Follows linking (Leaves .ready) .settled reconnect := by
  apply follows_bind
  apply ensureConnected_leaves.mono
  rintro stage outcome (⟨rfl, rfl⟩ | ⟨rfl, rfl⟩)
  · exact .inl ⟨rfl, rfl⟩
  · apply follows_bind
    apply (close_settles _).mono
    rintro _ _ ⟨rfl, rfl⟩
    exact ensureConnected_leaves

/-- `waitConfirm` returns true only after a confirm was read. -/
theorem waitConfirm_leads (seconds : Nat) : Leads (waitConfirm seconds) .sent .confirmed := by
  apply linking_call (r := .waitFrame seconds) rfl
  rintro (_ | ⟨tag⟩ | ⟨tag⟩ | _ | _)
  · exact .inr rfl
  · exact .inl ⟨rfl, rfl⟩
  · exact .inr rfl
  · exact .inr rfl
  · exact .inr rfl

/-- A call of `publish` starts from a settled connection and leaves one, and returns true
after reading the confirm that arrived first. -/
theorem publish_leaves (exchange routingKey payload : String) :
    Script.Follows linking (Leaves .confirmed) .settled (publish exchange routingKey payload) := by
  have sends : Leads (Amqp.request (.basicPublish exchange routingKey payload)) .ready .sent := by
    refine ⟨rfl, ?_⟩
    rintro (fault | _ | _) returned
    · cases returned
    · exact .inr rfl
    · exact .inl ⟨rfl, rfl⟩
  have ends : Script.Follows linking (Leaves .confirmed) .confirmed (pure true : Client Bool) :=
    .inl ⟨rfl, rfl⟩
  apply follows_bind
  apply reconnect_leaves.mono
  rintro stage outcome (⟨rfl, rfl⟩ | ⟨rfl, rfl⟩)
  · exact sends.orElse ((waitConfirm_leads kConfirmTimeoutSeconds).orElse ends)
  · exact .inr ⟨rfl, rfl⟩

/-! The connection and the broker. -/

/-- Every message published on the connection was confirmed, and no confirm is on the
way. -/
structure Clean (acked : List Nat) (link : Link) : Prop where
  confirmed : ∀ message ∈ link.published, message ∈ acked
  inbox : link.inbox = []
  acks : link.acks = 0

/-- Set up completely, with no message unconfirmed. A connection is left so by every call that
returns and keeps it. -/
structure Complete (acked : List Nat) (link : Link) : Prop where
  channelOpen : link.channelOpen = true
  exchangeDeclared : link.exchangeDeclared = true
  confirmMode : link.confirmMode = true
  confirmed : ∀ message ∈ link.published, message ∈ acked

/-- What succeeded has been done. -/
def Setup.On (setup : Setup) (link : Link) : Prop :=
  (setup.channelOpen → link.channelOpen = true) ∧
    (setup.exchangeDeclared → link.exchangeDeclared = true) ∧
    (setup.confirmMode → link.confirmMode = true)

/-- What a running call knows is so. The one confirm that can be on the way is the one
of its own message. -/
def Tracks (world : World) : Stage → Prop
  | .settled => ∀ link ∈ world.conn, Complete world.acked link ∧ Clean world.acked link
  | .building setup => ∃ link, world.conn = some link ∧ Clean world.acked link ∧ setup.On link
  | .sent => ∃ link, world.conn = some link ∧ link.channelOpen = true ∧
      link.exchangeDeclared = true ∧ link.confirmMode = true ∧
      (∀ message ∈ link.published, message ∈ world.acked ∨ message = world.calls) ∧
      (∀ message ∈ link.inbox, message = world.calls) ∧
      link.inbox.length + link.acks ≤ 1 ∧ (link.acks = 1 → world.calls ∈ world.acked)
  | .confirmed => world.calls ∈ world.acked ∧
      ∀ link ∈ world.conn, Complete world.acked link ∧ Clean world.acked link

/-- The rest of a call keeps to the protocol from here. -/
def Calls (stage : Stage) (rest : Script Amqp.Request (fun r => Except Fault (Amqp.Reply r))
    (Except Fault Bool)) : Prop :=
  Script.Follows linking (Leaves .confirmed) stage rest

/-- Calls that returned true were confirmed. -/
def OwnConfirm (world : World) : Prop :=
  ∀ call, (call, true) ∈ world.returned → call ∈ world.acked

/-- What holds between the events: the calls so far were honest, the connection is in the
stage that the running call is in, and between calls it is none or a clean one. -/
structure Sound (world : World) : Prop where
  own : OwnConfirm world
  resting : world.running = none → Tracks world .settled
  running : ∀ rest, world.running = some rest → ∃ stage, Calls stage rest ∧ Tracks world stage

/-- A call of the library changes nothing about the calls of `publish` and the confirms before
it. -/
theorem exec_history (world : World) (turn : Turn) (r : Amqp.Request) :
    (exec world turn r).1.calls = world.calls ∧ (exec world turn r).1.acked = world.acked ∧
      (exec world turn r).1.returned = world.returned := by
  cases r with
  | channelOpen | exchangeDeclare | confirmSelect =>
    simp only [exec, World.setUp]
    split <;> exact ⟨rfl, rfl, rfl⟩
  | waitFrame =>
    simp only [exec, World.readFrame]
    repeat' split
    all_goals exact ⟨rfl, rfl, rfl⟩
  | _ => exact ⟨rfl, rfl, rfl⟩

/-- A set-up call that was carried out changes the connection and nothing that was sent
on it. -/
theorem setUp_tracks {world : World} (turn : Turn) {change : Link → Link} {before after : Setup}
    (tracks : Tracks world (.building before))
    (same : ∀ link, (change link).published = link.published ∧ (change link).inbox = link.inbox ∧
      (change link).frames = link.frames)
    (sets : ∀ link, before.On link → after.On (change link))
    (weaker : ∀ link, after.On link → before.On link) :
    Tracks (world.setUp turn change).1
      (if (world.setUp turn change).2 then .building after else .building before) := by
  obtain ⟨link, here, clean, done⟩ := tracks
  unfold World.setUp
  split
  · obtain ⟨published, inbox, frames⟩ := same link
    have cleaned : Clean world.acked (change link) := by
      refine ⟨by rw [published]; exact clean.confirmed, by rw [inbox]; exact clean.inbox, ?_⟩
      rw [Link.acks, frames]
      exact clean.acks
    have changed : (world.onLink change).conn = some (change link) := by
      rw [World.onLink, here, Option.map_some]
    split
    · exact ⟨change link, changed, cleaned, sets link done⟩
    · exact ⟨change link, changed, cleaned, weaker _ (sets link done)⟩
  · exact ⟨link, here, clean, done⟩

/-- The first confirm that is read after a message was published is the message's own: the
channel had no confirm on its way before, and the broker answers each message at most once. -/
theorem readFrame_tracks {world : World} (tracks : Tracks world .sent) {seconds : Nat} :
    Tracks world.readFrame.1
      (linking.after .sent (.waitFrame seconds) (.ok world.readFrame.2)) := by
  obtain ⟨link, here, opened, declared, selected, published, inbox, few, own⟩ := tracks
  have kept : Tracks world .sent :=
    ⟨link, here, opened, declared, selected, published, inbox, few, own⟩
  cases arrived : link.frames with
  | nil =>
    have nothing : world.readFrame = (world, none) := by simp only [World.readFrame, here, arrived]
    rw [nothing]
    exact kept
  | cons frame rest =>
    let read : Link := { link with frames := rest }
    have first : world.readFrame = ({ world with conn := some read }, some frame) := by
      simp only [World.readFrame, here, arrived, read]
    rw [first]
    have counted : link.acks = read.acks + if frame.isAck then 1 else 0 := by
      rw [Link.acks, arrived, List.countP_cons]
      rfl
    cases frame with
    | basicAck tag =>
      simp only [Frame.isAck, if_true] at counted
      have answered : world.calls ∈ world.acked := own (by omega)
      have complete : Complete world.acked read := by
        refine ⟨opened, declared, selected, fun message member => ?_⟩
        rcases published message member with before | now
        · exact before
        · rw [now]
          exact answered
      have clean : Clean world.acked read :=
        ⟨complete.confirmed, List.eq_nil_of_length_eq_zero (by change link.inbox.length = 0; omega),
          by omega⟩
      refine ⟨answered, fun other there => ?_⟩
      obtain rfl := Option.some.inj there
      exact ⟨complete, clean⟩
    | basicNack | method | other =>
      simp only [Frame.isAck] at counted
      refine ⟨read, rfl, opened, declared, selected, published, inbox, ?_, fun one => own ?_⟩
      · change link.inbox.length + read.acks ≤ 1
        simp at counted
        omega
      · simp at counted
        omega

section Calls

variable {world : World} {stage : Stage}

/-- The client knows afterwards what `exec` has told it. -/
def Learns (world : World) (stage : Stage) (turn : Turn) (r : Amqp.Request) : Prop :=
  Tracks (exec world turn r).1 (linking.after stage r (.ok (exec world turn r).2))

/-- A connection that is there between calls is a complete one. -/
theorem connected_tracks (tracks : Tracks world stage) (turn : Turn) :
    Learns world stage turn .connected := by
  simp only [Learns, exec]
  cases here : world.conn with
  | none =>
    have settled : Tracks world .settled := by simp [Tracks, here]
    cases stage <;> exact settled
  | some link =>
    cases stage with
    | settled =>
      obtain ⟨complete, clean⟩ := tracks link here
      exact ⟨link, here, clean, fun _ => complete.channelOpen, fun _ => complete.exchangeDeclared,
        fun _ => complete.confirmMode⟩
    | building | sent | confirmed => exact tracks

/-- A connection begins with nothing set up and nothing sent. -/
theorem newConnection_tracks (turn : Turn) : Learns world stage turn .newConnection := by
  have fresh : Tracks { world.dropConnection with conn := some .fresh } (.building .none) :=
    ⟨.fresh, rfl, ⟨nofun, rfl, rfl⟩, nofun, nofun, nofun⟩
  cases stage <;> exact fresh

/-- Giving the connection up, whatever it was. -/
theorem destroyConnection_tracks (turn : Turn) : Learns world stage turn .destroyConnection := by
  have settled : Tracks world.dropConnection .settled := by simp [Tracks, World.dropConnection]
  cases stage <;> exact settled

/-- The three set-up calls: what an answer of success teaches is true of the connection. -/
theorem channelOpen_tracks (tracks : Tracks world stage) (turn : Turn)
    (permitted : linking.permits stage .channelOpen) : Learns world stage turn .channelOpen := by
  cases stage with
  | settled | sent | confirmed => cases permitted
  | building before =>
    have learns : ∀ answer, linking.after (.building before) .channelOpen (.ok answer) =
        if answer then .building { before with channelOpen := true } else .building before := by
      intro answer
      cases answer <;> rfl
    rw [Learns, learns]
    apply setUp_tracks turn tracks
    · exact fun _ => ⟨rfl, rfl, rfl⟩
    · exact fun _ done => ⟨fun _ => rfl, done.2⟩
    · exact fun _ done => ⟨fun _ => done.1 rfl, done.2⟩

/-- Declaring the exchange, which only happens while the setup is under way. -/
theorem exchangeDeclare_tracks (tracks : Tracks world stage) (turn : Turn) {exchange kind : String}
    (permitted : linking.permits stage (.exchangeDeclare exchange kind)) :
    Learns world stage turn (.exchangeDeclare exchange kind) := by
  cases stage with
  | settled | sent | confirmed => cases permitted.2
  | building before =>
    have learns : ∀ answer, linking.after (.building before) (.exchangeDeclare exchange kind)
        (.ok answer) =
        if answer then .building { before with exchangeDeclared := true } else .building before := by
      intro answer
      cases answer <;> rfl
    rw [Learns, learns]
    apply setUp_tracks turn tracks
    · exact fun _ => ⟨rfl, rfl, rfl⟩
    · exact fun _ done => ⟨done.1, fun _ => by simp [permitted.1], done.2.2⟩
    · exact fun _ done => ⟨done.1, fun _ => done.2.1 rfl, done.2.2⟩

/-- Turning the confirm mode on, the last step of the setup. -/
theorem confirmSelect_tracks (tracks : Tracks world stage) (turn : Turn)
    (permitted : linking.permits stage .confirmSelect) : Learns world stage turn .confirmSelect := by
  cases stage with
  | settled | sent | confirmed => cases permitted
  | building before =>
    have learns : ∀ answer, linking.after (.building before) .confirmSelect (.ok answer) =
        if answer then .building { before with confirmMode := true } else .building before := by
      intro answer
      cases answer <;> rfl
    rw [Learns, learns]
    apply setUp_tracks turn tracks
    · exact fun _ => ⟨rfl, rfl, rfl⟩
    · exact fun _ done => ⟨done.1, done.2.1, fun _ => rfl⟩
    · exact fun _ done => ⟨done.1, done.2.1, fun _ => done.2.2 rfl⟩

/-- After the message is sent, the one confirm that can be on the way is its own. The inbox
and the frames were clean before, and it does not matter whether the network carries the
message. -/
theorem basicPublish_tracks (tracks : Tracks world .ready) (turn : Turn)
    {exchange routingKey payload : String} :
    Learns world .ready turn (.basicPublish exchange routingKey payload) := by
  obtain ⟨link, here, clean, opened, declared, selected⟩ := tracks
  let sending : Link := { link with
    published := link.published ++ [world.calls]
    inbox := if turn.carried then link.inbox ++ [world.calls] else link.inbox }
  have none : sending.acks = 0 := clean.acks
  have inbox : sending.inbox = if turn.carried then [world.calls] else [] := by
    simp only [sending, clean.inbox, List.nil_append]
  refine ⟨sending, by simp only [exec, World.onLink, here, Option.map_some, sending], opened rfl,
    declared rfl, selected rfl, ?_, ?_, ?_, ?_⟩
  · intro message member
    rcases List.mem_append.mp member with old | new
    · exact .inl (clean.confirmed message old)
    · exact .inr (List.mem_singleton.mp new)
  · intro message member
    rw [inbox] at member
    split at member
    · exact List.mem_singleton.mp member
    · cases member
  · rw [inbox, none]
    split <;> simp
  · intro one
    omega

/-- A library call, and what it tells the client. -/
theorem exec_tracks (tracks : Tracks world stage) (turn : Turn) {r : Amqp.Request}
    (permitted : linking.permits stage r) : Learns world stage turn r := by
  cases r with
  | connected => exact connected_tracks tracks turn
  | newConnection => exact newConnection_tracks turn
  | destroyConnection => exact destroyConnection_tracks turn
  | channelOpen => exact channelOpen_tracks tracks turn permitted
  | exchangeDeclare => exact exchangeDeclare_tracks tracks turn permitted
  | confirmSelect => exact confirmSelect_tracks tracks turn permitted
  | basicPublish =>
    obtain rfl : stage = .ready := permitted
    exact basicPublish_tracks tracks turn
  | waitFrame seconds =>
    obtain rfl : stage = .sent := permitted
    simp only [Learns, exec]
    split
    · exact readFrame_tracks tracks
    · exact tracks
  | tcpSocketNew | socketOpen | login | connectionClose => cases stage <;> exact tracks
  | queueDeclare | queueBind | basicConsume => exact permitted.elim

end Calls

/-- Continue or return: a call that returns true has seen its own confirm, because the stage
it returns in is reached through that confirm only. -/
theorem resumed_sound {world : World} {stage : Stage}
    {rest : Script Amqp.Request (fun r => Except Fault (Amqp.Reply r)) (Except Fault Bool)}
    (own : OwnConfirm world) (tracks : Tracks world stage) (calls : Calls stage rest) :
    Sound (world.resume rest) := by
  cases rest with
  | call r k =>
    refine ⟨own, nofun, ?_⟩
    intro rest running
    obtain rfl := Option.some.inj running
    exact ⟨stage, calls, by cases stage <;> exact tracks⟩
  | done outcome =>
    rcases calls with ⟨rfl, rfl⟩ | ⟨rfl, rfl⟩
    · refine ⟨?_, fun _ => tracks.2, nofun⟩
      intro call member
      rcases List.mem_append.mp member with old | new
      · exact own call old
      · obtain ⟨rfl, -⟩ := Prod.mk.inj (List.mem_singleton.mp new)
        exact tracks.1
    · refine ⟨?_, fun _ => tracks, nofun⟩
      intro call member
      rcases List.mem_append.mp member with old | new
      · exact own call old
      · cases (Prod.mk.inj (List.mem_singleton.mp new)).2

/-- The broker sends confirms for other messages, the network loses messages and brings
other frames: the connection keeps its set-up and its confirms. -/
structure Wears (before after : World) : Prop where
  calls : after.calls = before.calls
  acked : before.acked ⊆ after.acked
  conn : ∀ link ∈ after.conn, ∃ old ∈ before.conn, link.channelOpen = old.channelOpen ∧
    link.exchangeDeclared = old.exchangeDeclared ∧ link.confirmMode = old.confirmMode ∧
    link.published = old.published ∧ List.Sublist link.inbox old.inbox ∧ link.acks = old.acks
  kept : before.conn.isSome → after.conn.isSome

/-- What the broker does meanwhile leaves a clean connection clean: it acknowledges what it
has received, and that only becomes less. -/
theorem Wears.clean {before after : World} (wears : Wears before after) {link old : Link}
    (published : link.published = old.published) (inbox : List.Sublist link.inbox old.inbox)
    (acks : link.acks = old.acks) (clean : Clean before.acked old) : Clean after.acked link where
  confirmed := by
    rw [published]
    exact fun message member => wears.acked (clean.confirmed message member)
  inbox := by
    rw [clean.inbox] at inbox
    exact List.sublist_nil.mp inbox
  acks := acks.trans clean.acks

/-- It leaves the stage of the running call alone. The connection stays, with its set-up, what
was published on it and the confirms on their way; messages on the way to the broker only
become fewer. -/
theorem Wears.tracks {before after : World} (wears : Wears before after) {stage : Stage}
    (tracks : Tracks before stage) : Tracks after stage := by
  have settled : Tracks before .settled → Tracks after .settled := by
    intro quiet link here
    obtain ⟨old, there, opened, declared, selected, published, inbox, acks⟩ :=
      wears.conn link here
    obtain ⟨complete, clean⟩ := quiet old there
    have cleaned := wears.clean published inbox acks clean
    exact ⟨⟨opened.trans complete.channelOpen, declared.trans complete.exchangeDeclared,
      selected.trans complete.confirmMode, cleaned.confirmed⟩, cleaned⟩
  have stays : ∀ {old}, before.conn = some old → ∃ link, after.conn = some link ∧
      link.channelOpen = old.channelOpen ∧ link.exchangeDeclared = old.exchangeDeclared ∧
      link.confirmMode = old.confirmMode ∧ link.published = old.published ∧
      List.Sublist link.inbox old.inbox ∧ link.acks = old.acks := by
    intro old there
    obtain ⟨link, here⟩ := Option.isSome_iff_exists.mp (wears.kept (by simp [there]))
    obtain ⟨other, elsewhere, same⟩ := wears.conn link here
    obtain rfl := Option.some.inj (there.symm.trans elsewhere)
    exact ⟨link, here, same⟩
  cases stage with
  | settled => exact settled tracks
  | confirmed =>
    refine ⟨?_, settled tracks.2⟩
    rw [wears.calls]
    exact wears.acked tracks.1
  | building setup =>
    obtain ⟨old, there, clean, done⟩ := tracks
    obtain ⟨link, here, opened, declared, selected, published, inbox, acks⟩ := stays there
    refine ⟨link, here, wears.clean published inbox acks clean, ?_, ?_, ?_⟩
    · rw [opened]
      exact done.1
    · rw [declared]
      exact done.2.1
    · rw [selected]
      exact done.2.2
  | sent =>
    obtain ⟨old, there, open', declare, select, sent, unread, few, own⟩ := tracks
    obtain ⟨link, here, opened, declared, selected, published, inbox, acks⟩ := stays there
    refine ⟨link, here, opened.trans open', declared.trans declare, selected.trans select, ?_, ?_,
      ?_, ?_⟩
    · rw [published, wears.calls]
      exact fun message member => (sent message member).imp_left fun acked => wears.acked acked
    · rw [wears.calls]
      exact fun message member => unread message (inbox.subset member)
    · have shorter := inbox.length_le
      omega
    · rw [acks, wears.calls]
      exact fun one => wears.acked (own one)

/-- And so everything that holds between the events. -/
theorem Sound.worn {before after : World} (sound : Sound before) (wears : Wears before after)
    (running : after.running = before.running) (returned : after.returned = before.returned) :
    Sound after where
  own := by
    intro call member
    rw [returned] at member
    exact wears.acked (sound.own call member)
  resting stopped := wears.tracks (sound.resting (running.symm.trans stopped))
  running rest going := by
    obtain ⟨stage, calls, tracks⟩ := sound.running rest (running.symm.trans going)
    exact ⟨stage, calls, wears.tracks tracks⟩

/-- A change of the connection that leaves its setup and its messages alone. -/
theorem Wears.onLink (world : World) {change : Link → Link}
    (same : ∀ link, (change link).channelOpen = link.channelOpen ∧
      (change link).exchangeDeclared = link.exchangeDeclared ∧
      (change link).confirmMode = link.confirmMode ∧ (change link).published = link.published ∧
      List.Sublist (change link).inbox link.inbox ∧ (change link).acks = link.acks) :
    Wears world (world.onLink change) where
  calls := rfl
  acked := List.Subset.refl _
  conn link here := by
    obtain ⟨old, there, rfl⟩ := Option.map_eq_some_iff.mp here
    exact ⟨old, there, same old⟩
  kept present := by simpa [World.onLink] using present

/-- The broker answers a message. Only the one of the running call can be on the way, and
its confirm is the only one then. -/
theorem answer_tracks {world next : World} {index : Nat} {acks : Bool} {stage : Stage}
    (tracks : Tracks world stage) (taken : world.answer index acks = some next) :
    Tracks next stage := by
  unfold World.answer at taken
  split at taken
  · cases taken
  · rename_i link here
    split at taken
    · cases taken
    · rename_i message found
      cases taken
      have present : message ∈ link.inbox := List.mem_of_getElem? found
      have busy : link.inbox ≠ [] := List.ne_nil_of_mem present
      cases stage with
      | settled => exact absurd (tracks link here).2.inbox busy
      | confirmed => exact absurd (tracks.2 link here).2.inbox busy
      | building setup =>
        obtain ⟨old, there, clean, -⟩ := tracks
        obtain rfl := Option.some.inj (here.symm.trans there)
        exact absurd clean.inbox busy
      | sent =>
        obtain ⟨old, there, opened, declared, selected, published, inbox, few, own⟩ := tracks
        obtain rfl := Option.some.inj (here.symm.trans there)
        obtain rfl := inbox message present
        have one : 0 < link.inbox.length := List.length_pos_of_mem present
        have fits : index < link.inbox.length := (List.getElem?_eq_some_iff.mp found).1
        have shorter : (link.inbox.eraseIdx index).length = 0 := by
          rw [List.length_eraseIdx_of_lt fits]
          omega
        have counted : ∀ frame, (link.answer index frame).acks = if frame.isAck then 1 else 0 := by
          intro frame
          have before : link.frames.countP Frame.isAck = 0 := by
            change link.acks = 0
            omega
          rw [Link.acks, Link.answer, selected, if_pos rfl, List.countP_append, before,
            List.countP_singleton, Nat.zero_add]
        refine ⟨_, rfl, opened, declared, selected, ?_, ?_, ?_, ?_⟩
        · intro other member
          refine (published other member).imp_left fun acked => ?_
          dsimp only
          split
          · exact List.mem_append_left _ acked
          · exact acked
        · intro other member
          exact inbox other (List.mem_of_mem_eraseIdx member)
        · rw [counted]
          change (link.inbox.eraseIdx index).length + _ ≤ 1
          rw [shorter]
          cases acks <;> simp [Frame.isAck]
        · intro confirmed
          cases acks with
          | true => simp [selected]
          | false => simp [counted, Frame.isAck] at confirmed

/-- The broker's answer touches neither the running call nor the ones before. -/
theorem answer_rest {world next : World} {index : Nat} {acks : Bool}
    (taken : world.answer index acks = some next) :
    next.running = world.running ∧ next.returned = world.returned ∧ world.acked ⊆ next.acked := by
  unfold World.answer at taken
  split at taken
  · cases taken
  · split at taken
    · cases taken
    · cases taken
      refine ⟨rfl, rfl, ?_⟩
      dsimp only
      split
      · exact List.subset_append_left _ _
      · exact List.Subset.refl _

/-- Every event is sound: the start of a call, the library's answer to it, and what the broker
does meanwhile. -/
theorem step_sound {world next : World} {event : Event} (sound : Sound world)
    (taken : step world event = some next) : Sound next := by
  cases event with
  | publish exchange routingKey payload =>
    simp only [step] at taken
    split at taken
    · rename_i resting
      cases taken
      have tracks : Tracks { world with calls := world.calls + 1 } .settled :=
        sound.resting resting
      exact resumed_sound sound.own tracks (publish_leaves exchange routingKey payload)
    · cases taken
  | client turn =>
    simp only [step] at taken
    split at taken
    · rename_i r k running
      cases taken
      obtain ⟨stage, calls, tracks⟩ := sound.running _ running
      obtain ⟨-, acked, returned⟩ := exec_history world turn r
      have own : OwnConfirm (exec world turn r).1 := by
        rw [OwnConfirm, acked, returned]
        exact sound.own
      exact resumed_sound own (exec_tracks tracks turn calls.1) (calls.2 _ rfl)
    · cases taken
  | answer index acks =>
    obtain ⟨running, returned, acked⟩ := answer_rest taken
    refine ⟨?_, fun resting => ?_, fun rest going => ?_⟩
    · intro call member
      rw [returned] at member
      exact acked (sound.own call member)
    · exact answer_tracks (sound.resting (running.symm.trans resting)) taken
    · obtain ⟨stage, calls, tracks⟩ := sound.running rest (running.symm.trans going)
      exact ⟨stage, calls, answer_tracks tracks taken⟩
  | stray index acks =>
    simp only [step, World.answerStray] at taken
    split at taken
    · cases taken
    · cases taken
      refine sound.worn ⟨rfl, ?_, ?_, id⟩ rfl rfl
      · dsimp only
        split
        · exact List.subset_append_left _ _
        · exact List.Subset.refl _
      · exact fun link here => ⟨link, here, rfl, rfl, rfl, rfl, List.Sublist.refl _, rfl⟩
  | frame frame =>
    simp only [step] at taken
    split at taken
    · cases taken
    · rename_i other
      cases taken
      refine sound.worn (.onLink world fun link => ?_) rfl rfl
      exact ⟨rfl, rfl, rfl, rfl, List.Sublist.refl _, by simp [Link.acks, other]⟩
  | lose index =>
    cases taken
    refine sound.worn (.onLink world fun link => ?_) rfl rfl
    exact ⟨rfl, rfl, rfl, rfl, List.eraseIdx_sublist _ _, rfl⟩

/-- Whatever the network and the broker do, a call that returns true has been confirmed
itself, and between calls there is no connection or a complete one without unconfirmed
messages. Frames that arrive late, for another channel or out of order are all allowed; a call
that fails gives its connection up, which is what keeps the invariant. -/
theorem reached_ownConfirm {world : World}
    (reached : Transitions.Reached step (fun _ _ => True) .initial world) :
    OwnConfirm world ∧
      (world.running = none → ∀ link ∈ world.conn, Complete world.acked link) := by
  have started : Sound .initial := ⟨nofun, fun _ => nofun, nofun⟩
  have sound := reached.invariant started fun _ _ _ before _ taken => step_sound before taken
  exact ⟨sound.own, fun resting link here => (sound.resting resting link here).1⟩

/-- A call without any trouble. -/
def smooth : Turn := ⟨true, true⟩

/-- The first call publishes and its wait runs out, so it gives the connection up; its
confirm comes late. The second call connects again and reads its own confirm. -/
theorem late_ownConfirm : ∃ world,
    Transitions.Reached step (fun _ _ => True) .initial world ∧
      (world.returned = [(1, false), (2, true)] ∧ world.acked = [1, 2] ∧ world.conn.isSome) ∧
      OwnConfirm world ∧
        (world.running = none → ∀ link ∈ world.conn, Complete world.acked link) := by
  have ran : ((Transitions.runWhere step (fun _ _ => true) .initial
      (.publish "trade.exchange" "order.paid" "m1" :: List.replicate 9 (.client smooth) ++
        .client ⟨true, false⟩ :: List.replicate 3 (.client smooth) ++ .stray 0 true ::
        .publish "trade.exchange" "order.paid" "m2" :: List.replicate 9 (.client smooth) ++
        [.answer 0 true, .client smooth])).map fun world =>
          (world.returned, world.acked, world.conn.isSome)) =
      some ([(1, false), (2, true)], [1, 2], true) := by decide +kernel
  obtain ⟨world, last, shown⟩ := Option.map_eq_some_iff.mp ran
  have reached := Transitions.Reached.of_runWhere
    (fun _ _ _ => (trivial : True)) .initial last
  exact ⟨world, reached, by simpa using shown, reached_ownConfirm reached⟩

end MqClient

end TradeReconcile
