import SocketInterface.Conversation
import SocketInterface.HostLookup
import SocketInterface.IpText
import SocketInterface.Library.Scopes
import SocketInterface.Polling
import SocketInterface.Sockets

/-!
# The functions of `main.cpp`

They declare sockets, use them and leave: at the end of a block, and when something throws,
the sockets of the block are destroyed. What is printed is left out.
-/

namespace Snl

open Method Handles

/-! ## Blocks with sockets -/

section Blocks

variable {α σ : Type}

/-- The destructor of a `ServerSocket`. -/
def closeServer : M ServerSocketFsm Unit := ServerSocketFsm.onFd FdGuard.close

/-- The destructor of a `StreamSocket`. -/
def closeStream : M StreamSocketFsm Unit := StreamSocketFsm.onFd FdGuard.close

def declareServer (construct : Prog Call Reply (Except SnlException ServerSocketFsm)) :
    M σ ServerSocketFsm := fun s => construct.map fun r => (r, s)

/-- In the block of a server, with the client that it accepted. -/
abbrev Serving : Type := StreamSocketFsm × ServerSocketFsm × Unit

def onStrSock (m : M StreamSocketFsm α) : M Serving α := onInner m

def onServSock (m : M ServerSocketFsm α) : M Serving α := onOuter (onInner m)

def serve [Host] (construct : Prog Call Reply (Except SnlException ServerSocketFsm))
    (block : M Serving Unit) : M Unit Unit := do
  let servSock ← declareServer construct
  withLocal closeServer servSock do
    let strSock ← onInner ServerSocket.accept
    withLocal closeStream strSock block

/-- `line` is a local string. -/
def withLine (m : M Reader α) : M StreamSocketFsm α :=
  zoom (fun strSock => ⟨strSock, []⟩) (fun l _ => l.strSock) m

def orThrow : Except SnlException α → M σ α
  | .ok a => pure a
  | .error e => raise e

def defaultBacklog : Int := 5

end Blocks

namespace Main

variable [Host]

/-- What is done with the client. `closing` is `servSock.close()`. -/
def servSockFsmBlock (closing : M Serving Unit) (fuel : Nat) : M Serving Unit := do
  onStrSock (StreamSocketFsm.setNonBlock false)
  onStrSock (sendline helloLine defaultEol fuel)
  onStrSock (sendline escapeLine defaultEol fuel)
  let _ ← onStrSock StreamSocketFsm.getSockAddress
  closing
  onStrSock (withLine (doWhile (untilQuit fuel) fuel))
  onStrSock (sendline responseLine defaultEol fuel)
  onStrSock StreamSocketFsm.close

def servSockFsmTest (inetPton : InetPton) (prior : ServerSocketFsm) (fuel : Nat) : M Unit Unit :=
  serve (ServerSocket.constructOnPort inetPton prior ⟨8000⟩ defaultBacklog)
    (servSockFsmBlock (onServSock ServerSocketFsm.close) fuel)

/-- `ServerSocket{"localhost", 8000}` -/
def localServer (resolver : Resolver) (prior : ServerSocketFsm) :
    Prog Call Reply (Except SnlException ServerSocketFsm) :=
  match hostAddress resolver (ofText "localhost") with
  | .ok ipAddress =>
    ServerSocketFsm.constructListening prior (.make ipAddress ⟨8000⟩) defaultBacklog
  | .error e => .done (.error e)

/-- The content of `buffer` is what the stack held. -/
def serverFunc (resolver : Resolver) (prior : ServerSocketFsm) (buffer : List Byte)
    (dataToRead : SizeT) (fuel : Nat) : M Unit Unit :=
  serve (localServer resolver prior) do
    onStrSock (zoom (fun strSock => ⟨strSock, buffer, 0⟩) (fun this _ => this.strSock)
      (receiveMessage dataToRead fuel))
    onStrSock StreamSocketFsm.close
    onServSock ServerSocketFsm.close

def strSockTest (resolver : Resolver) (message : List Byte) (fuel : Nat) : M Unit Unit :=
  withLocal closeStream {} do
    let ipAddress ← orThrow (hostAddress resolver (ofText "localhost"))
    onInner (StreamSocketFsm.connect (.make ipAddress ⟨8000⟩))
    onInner (sendBuff message fuel)
    onInner StreamSocketFsm.close

end Main

/-! ## The block without the server -/

section Blocks

variable {α β : Type}

theorem onStrSock_bind (m : M StreamSocketFsm α) (f : α → M StreamSocketFsm β) :
    onStrSock (m >>= f) = onStrSock m >>= fun a => onStrSock (f a) := by
  unfold onStrSock onInner
  apply zoom_bind <;> intros <;> rfl

theorem onSock_bind (m : M StreamSocketFsm α) (f : α → M StreamSocketFsm β) :
    onSock (m >>= f) = onSock m >>= fun a => onSock (f a) := by
  unfold onSock
  apply zoom_bind <;> intros <;> rfl

theorem withLine_onSock_bind (m : M StreamSocketFsm α) (f : α → M Reader β) :
    withLine (onSock m >>= f) = m >>= fun a => withLine (f a) := by
  funext strSock
  show (((m strSock).bind _).bind _).bind _ = (m strSock).bind _
  rw [Prog.bind_assoc, Prog.bind_assoc]
  congr
  funext ⟨r, _⟩
  cases r <;> rfl

/-- What no longer uses the line may stand behind the block of the line. -/
theorem withLine_bind_onSock (m : M Reader α) (f : α → M StreamSocketFsm β) :
    withLine (m >>= fun a => onSock (f a)) = withLine m >>= f := by
  funext strSock
  show ((m ⟨strSock, []⟩).bind _).bind _ = ((m ⟨strSock, []⟩).bind _).bind _
  rw [Prog.bind_assoc, Prog.bind_assoc]
  congr
  funext ⟨r, this⟩
  cases r with
  | ok a =>
    show ((f a this.strSock).bind _).bind _ = f a this.strSock
    rw [Prog.bind_assoc]
    exact Prog.bind_done _
  | error e => rfl

/-- But for `servSock.close()`, the block is the conversation with the client alone. -/
theorem Main.servSockFsmBlock_eq [Host] (fuel : Nat) :
    Main.servSockFsmBlock (pure ()) fuel = onStrSock (withLine (Snl.servSockFsmTest fuel)) := by
  unfold Snl.servSockFsmTest
  rw [← onSock_bind (sendline responseLine defaultEol fuel) fun _ => StreamSocketFsm.close]
  simp only [withLine_onSock_bind, withLine_bind_onSock, onStrSock_bind]
  rfl

end Blocks

/-! ## Loops over a socket -/

section Loops

variable {message buffer eol : List Byte} {fuel : Nat}

theorem sendRest_stays : fds.Stays (fun l => l.2.held) (sendRest message) := by
  unfold sendRest
  refine stays_bind stays_self fun l => ?_
  refine stays_bind (stays_member (fun _ => rfl) (fun _ _ => rfl)
    fun _ => StreamSocketFsm.send_keeps) fun sent => ?_
  refine stays_bind (stays_update fun _ => rfl) fun _ => ?_
  exact stays_bind stays_self fun _ => stays_pure _

theorem sendBuff_stays : fds.Stays StreamSocketFsm.held (sendBuff buffer fuel) :=
  stays_withVar (stays_doWhile sendRest_stays fuel)

def Reader.held (this : Reader) : Multiset Fd := this.strSock.held

theorem readByte_stays : fds.Stays (fun l => l.2.held) (readByte eol) := by
  unfold readByte onReader Reader.receive
  refine stays_bind (stays_member (fun _ => rfl) (fun _ _ => rfl) (stays_member (fun _ => rfl)
    (fun _ _ => rfl) fun _ => StreamSocketFsm.receive_keeps)) fun got => ?_
  refine stays_bind (stays_update fun _ => rfl) fun _ => stays_bind stays_self fun l => ?_
  split
  · exact stays_halt (by simp)
  · refine stays_bind (stays_member (fun _ => rfl) (fun _ _ => rfl)
      (stays_update fun _ => rfl)) fun _ => ?_
    exact stays_bind stays_self fun _ => stays_pure _

theorem popBacks_stays (n : Nat) : fds.Stays Reader.held (Reader.popBacks n) := by
  induction n with
  | zero => exact stays_pure ()
  | succ n ih =>
    unfold Reader.popBacks Reader.popBack
    refine stays_bind (stays_bind stays_self fun this => ?_) fun _ => ih
    split
    · exact stays_halt (by simp)
    · exact stays_update fun _ => rfl

theorem readline_stays : fds.Stays Reader.held (readline eol fuel) := by
  unfold readline Reader.clear
  refine stays_bind (stays_update fun _ => rfl) fun _ => ?_
  refine stays_bind (stays_withVar (stays_doWhile readByte_stays fuel)) fun _ => ?_
  refine stays_bind (popBacks_stays _) fun _ => ?_
  exact stays_bind stays_self fun _ => stays_pure _

theorem untilQuit_stays : fds.Stays Reader.held (untilQuit fuel) := by
  unfold untilQuit
  exact stays_bind readline_stays fun _ => stays_bind stays_self fun _ => stays_pure _

theorem receiveMessage_stays {dataToRead : SizeT} :
    fds.Stays (fun this => this.strSock.held) (receiveMessage dataToRead fuel) := by
  refine stays_doWhile ?_ fuel
  unfold receiveRest
  refine stays_bind stays_self fun this => ?_
  refine stays_bind (stays_member (fun _ => rfl) (fun _ _ => rfl)
    fun _ => StreamSocketFsm.receive_keeps) fun got => ?_
  refine stays_bind (stays_update fun _ => rfl) fun _ => ?_
  exact stays_bind stays_self fun _ => stays_pure _

end Loops

/-! ## The blocks -/

section Blocks

variable {α : Type}

theorem closeServer_destroys (servSock : ServerSocketFsm) :
    fds.Destroys closeServer servSock servSock.held := by
  unfold closeServer ServerSocketFsm.onFd
  exact keeps_mono (s := servSock) zoomClose_keeps fun _ _ _ h => ⟨h.1, h.2.2⟩

theorem closeStream_destroys (strSock : StreamSocketFsm) :
    fds.Destroys closeStream strSock strSock.held := by
  unfold closeStream StreamSocketFsm.onFd
  exact keeps_mono (s := strSock) zoomClose_keeps fun _ _ _ h => ⟨h.1, h.2.2⟩

def noFds : Unit → Multiset Fd := fun _ => 0

def serverHeld (l : ServerSocketFsm × Unit) : Multiset Fd := l.1.held + noFds l.2

def Serving.held (l : Serving) : Multiset Fd := l.1.held + serverHeld l.2

theorem orThrow_stays {σ : Type} {held : σ → Multiset Fd} (r : Except SnlException α) :
    fds.Stays held (orThrow r) := by
  cases r with
  | ok a => exact stays_pure a
  | error e => exact stays_raise e

theorem getSockAddress_stays : fds.Stays StreamSocketFsm.held StreamSocketFsm.getSockAddress := by
  refine fun s => keeps_mono StreamSocketFsm.getSockAddress_keeps ?_
  rintro _ _ _ ⟨rfl, rfl⟩
  rfl

theorem onStrSock_stays {m : M StreamSocketFsm α} (hm : fds.Stays StreamSocketFsm.held m) :
    fds.Stays Serving.held (onStrSock m) := stays_inner hm

theorem onServSock_stays {m : M ServerSocketFsm α} (hm : fds.Stays ServerSocketFsm.held m) :
    fds.Stays Serving.held (onServSock m) := stays_outer (stays_inner hm)

def Constructs (construct : Prog Call Reply (Except SnlException ServerSocketFsm)) : Prop :=
  fds.Custody construct 0 fun r own' => own' = given ServerSocketFsm.held r

theorem declareServer_makes {construct : Prog Call Reply (Except SnlException ServerSocketFsm)}
    (h : Constructs construct) :
    fds.Makes noFds ServerSocketFsm.held (declareServer construct) := by
  refine fun _ => custody_bind h fun r own' hown => custody_done ?_
  cases r with
  | ok servSock => exact hown.trans (add_zero _).symm
  | error e => exact hown

variable [Host]

theorem accept_makes :
    fds.Makes ServerSocketFsm.held StreamSocketFsm.held ServerSocket.accept := by
  refine fun s => keeps_mono ServerSocket.accept_keeps ?_
  rintro (e | strSock) s' own' h
  · exact h.trans (zero_add _)
  · exact h

theorem serve_stays {construct : Prog Call Reply (Except SnlException ServerSocketFsm)}
    {block : M Serving Unit} (hconstruct : Constructs construct)
    (hblock : fds.Stays Serving.held block) :
    fds.Stays noFds (serve construct block) := by
  refine stays_scope (declareServer_makes hconstruct) closeServer_destroys ?_
  exact stays_scope (makes_inner accept_makes) closeStream_destroys hblock

end Blocks

/-! ## What the functions leave -/

namespace Main

variable [Host] {prior : ServerSocketFsm} {resolver : Resolver} {fuel : Nat}

theorem constructOnPort_constructs {inetPton : InetPton} {tcpPort : TcpPort} {backlog : Int} :
    Constructs (ServerSocket.constructOnPort inetPton prior tcpPort backlog) := by
  unfold ServerSocket.constructOnPort
  split
  · exact ServerSocketFsm.constructListening_custody
  · exact custody_done rfl

theorem localServer_constructs : Constructs (localServer resolver prior) := by
  unfold localServer
  split
  · exact ServerSocketFsm.constructListening_custody
  · exact custody_done rfl

theorem servSockFsmTest_stays {inetPton : InetPton} :
    fds.Stays noFds (servSockFsmTest inetPton prior fuel) := by
  refine serve_stays constructOnPort_constructs ?_
  refine stays_bind (onStrSock_stays fun _ => StreamSocketFsm.setNonBlock_keeps) fun _ => ?_
  refine stays_bind (onStrSock_stays sendBuff_stays) fun _ => ?_
  refine stays_bind (onStrSock_stays sendBuff_stays) fun _ => ?_
  refine stays_bind (onStrSock_stays getSockAddress_stays) fun _ => ?_
  refine stays_bind (onServSock_stays fun _ => ServerSocketFsm.close_keeps) fun _ => ?_
  have hlines := stays_doWhile (@untilQuit_stays fuel) fuel
  refine stays_bind (onStrSock_stays (stays_member (fun _ => rfl) (fun _ _ => rfl) hlines))
    fun _ => ?_
  refine stays_bind (onStrSock_stays sendBuff_stays) fun _ => ?_
  exact onStrSock_stays fun _ => StreamSocketFsm.close_keeps

theorem serverFunc_stays {buffer : List Byte} {dataToRead : SizeT} :
    fds.Stays noFds (serverFunc resolver prior buffer dataToRead fuel) := by
  refine serve_stays localServer_constructs ?_
  refine stays_bind (onStrSock_stays (stays_member (fun _ => rfl) (fun _ _ => rfl)
    receiveMessage_stays)) fun _ => ?_
  refine stays_bind (onStrSock_stays fun _ => StreamSocketFsm.close_keeps) fun _ => ?_
  exact onServSock_stays fun _ => ServerSocketFsm.close_keeps

theorem strSockTest_stays {message : List Byte} :
    fds.Stays noFds (strSockTest resolver message fuel) := by
  have hmake : fds.Makes noFds StreamSocketFsm.held (pure {} : M Unit StreamSocketFsm) :=
    fun _ => keeps_pure rfl
  refine stays_scope hmake closeStream_destroys ?_
  refine stays_bind (orThrow_stays _) fun ipAddress => ?_
  refine stays_bind (stays_inner fun _ => StreamSocketFsm.connect_keeps) fun _ => ?_
  refine stays_bind (stays_inner sendBuff_stays) fun _ => ?_
  exact stays_inner fun _ => StreamSocketFsm.close_keeps

end Main

structure LeavesNothing (program : M Unit Unit) (k : Kernel) : Prop where
  notTerminated : ¬ Prog.Halts (Kernel.Answers .never) (program ()) k .terminated
  files : ∀ evs r k', Runs (Kernel.Answers .never) program () k evs r () k' → k'.files = k.files
  ownCalls : ∀ evs r k', Runs (Kernel.Answers .never) program () k evs r () k' →
    ∀ e ∈ evs, ∀ fd, e.call.fd? = some fd → k.files fd = none
  closesOpen : ∀ evs r k', Runs (Kernel.Answers .never) program () k evs r () k' →
    ∀ e ∈ evs, ∀ fd, e.call = .close fd → e.before.files fd ≠ none

theorem leavesNothing_of_stays {program : M Unit Unit} (h : fds.Stays noFds program) {k : Kernel}
    (hk : k.Wf) : LeavesNothing program k := by
  have howns : fds.Owns k (noFds ()) := ⟨hk, Multiset.nodup_zero, by simp [noFds]⟩
  obtain ⟨hterm, hruns⟩ := h () k howns
  have hover : ∀ {evs r k'}, Runs (Kernel.Answers .never) program () k evs r () k' →
      fds.Handover k 0 evs k' 0 := by
    intro evs r k' hx
    obtain ⟨own', hover, rfl⟩ := hruns _ _ _ hx
    exact hover
  refine ⟨hterm, fun evs r k' hx => ?_, fun evs r k' hx e he fd hfd => ?_,
    fun evs r k' hx e he fd hc => ?_⟩
  · funext fd
    by_cases hfd : k.files fd = none
    · rw [hfd]
      by_contra hne
      rcases (hover hx).rest fd hne with h | ⟨-, h⟩
      · simp at h
      · exact h hfd
    · exact ((hover hx).others fd (by simp) hfd).2
  · by_contra hne
    rcases (hover hx).calls e he fd hfd with h | h
    · simp at h
    · exact h hne
  · exact (hover hx).givesBack e he fd (by rw [hc]; rfl) ⟨fd, hc⟩

/-- Wherever a system call other than `close` fails and whatever the peer sends, the functions of
`main.cpp` come back with the descriptors of the process as they were. -/
theorem main_leaves_nothing [Host] {k : Kernel} (hk : k.Wf) (inetPton : InetPton)
    (resolver : Resolver) (prior : ServerSocketFsm) (buffer message : List Byte)
    (dataToRead : SizeT) (fuel : Nat) :
    LeavesNothing (Main.servSockFsmTest inetPton prior fuel) k ∧
      LeavesNothing (Main.serverFunc resolver prior buffer dataToRead fuel) k ∧
      LeavesNothing (Main.strSockTest resolver message fuel) k :=
  ⟨leavesNothing_of_stays Main.servSockFsmTest_stays hk,
    leavesNothing_of_stays Main.serverFunc_stays hk,
    leavesNothing_of_stays Main.strSockTest_stays hk⟩

/-- The client connects, the peer resets the connection, and the exception destroys the socket. -/
theorem main_leaves_nothing_connectionReset : ∃ (_ : Host) (evs : List Ev) (k' : Kernel),
    Runs (Kernel.Answers .never) (Main.strSockTest localResolver [104, 105] 3) () emptyKernel evs
      (.error (.errno "System call error: " 104)) () k' ∧ evs.length = 6 ∧
    k'.files = emptyKernel.files := by
  let host : Host := littleHost
  have hdrive : Prog.drive (Kernel.answer .never) (Main.strSockTest localResolver [104, 105] 3 ())
      emptyKernel (setupReplies 3 ++ [failReply 104, okReply]) = some (_, _, _) := rfl
  have hx : Runs (Kernel.Answers .never) _ () emptyKernel _ _ () _ := Prog.drive_exec hdrive
  exact ⟨host, _, _, hx, rfl, (main_leaves_nothing emptyKernel_wf loopbackPton localResolver
    ⟨.default, {}, 0, false, .INIT⟩ [] [104, 105] 0 3).2.2.files _ _ _ hx⟩

end Snl
