import TitanShare.ClientSession

/-!
# Delivery of replies

`sendResponse` has two implementations.  The one for TLS goes on until the whole reply is accepted;
the one for plain sockets asks once and ignores how much was accepted.
-/

namespace TitanShare

open ByteText

/-- A result that is no hard error on a TLS or a plain connection: some bytes were accepted, or the
socket has no space just now. -/
def SendResult.isSoft (ssl : Bool) : SendResult → Bool
  | accepted count => decide (0 < count)
  | refused wants again => if ssl then wants else again

namespace Transport

/-- Without a hard error the TLS loop sends everything. -/
theorem sendTls_eq {results : List SendResult}
    (soft : ∀ result ∈ results, result.isSoft true = true) (bytes : Bytes) :
    sendTls results bytes = bytes := by
  induction results generalizing bytes with
  | nil => rfl
  | cons result rest ih =>
      have later := ih fun other member => soft other (List.mem_cons_of_mem _ member)
      have first := soft result List.mem_cons_self
      by_cases nothing : bytes = []
      · simp [sendTls, nothing]
      · cases result with
        | refused wants again =>
            have wanting : wants = true := by simpa [SendResult.isSoft] using first
            simp [sendTls, nothing, wanting, later]
        | accepted count =>
            cases count with
            | zero => simp [SendResult.isSoft] at first
            | succ count => simp [sendTls, nothing, later]

end Transport

/-- The same session, over TLS or not. -/
def Context.over (context : Context) (ssl : Bool) : Context :=
  { context with session := { context.session with ssl } }

/-- Over either transport, the whole reply is on the connection when `sendResponse` returns; the
results of the send calls are given for each transport. -/
def RepliesAgree (context : Context) (results : Bool → List SendResult) (reply : Reply) : Prop :=
  ∀ ssl, ((context.over ssl).sendResponse (results ssl) reply).trace =
    context.trace ++ [.reply reply, .sent reply.text]

/-- Without a hard error, the transports agree on a reply exactly if the plain socket accepts all of
it at the first call. -/
theorem replies_agree_iff (context : Context) (results : Bool → List SendResult) (reply : Reply)
    (soft : ∀ ssl, ∀ result ∈ results ssl, result.isSoft ssl = true) :
    RepliesAgree context results reply ↔ Transport.TakenAtOnce (results false) reply.text := by
  have sent : ∀ ssl, ((context.over ssl).sendResponse (results ssl) reply).trace =
        context.trace ++ [.reply reply, .sent reply.text] ↔
      Transport.transmit ssl (results ssl) reply.text = reply.text := by
    intro ssl
    simp [Context.over]
  simp only [RepliesAgree, sent, Bool.forall_bool]
  have tls : Transport.transmit true (results true) reply.text = reply.text :=
    Transport.sendTls_eq (soft true) reply.text
  have plain : Transport.transmit false (results false) reply.text = reply.text ↔
      Transport.TakenAtOnce (results false) reply.text :=
    Transport.sendPlain_eq_iff _ _
  rw [plain]
  exact and_iff_left tls

/-- A session that nothing has been sent to. -/
def unanswered : Context :=
  { session := .initial false [1]
    trace := []
    world :=
      { manager := .initial
        now := 0
        authLog := []
        files := .empty
        transfer := ⟨.absent, []⟩
        receivedDir := []
        sendDir := [] }
    consumed := 0 }

theorem replies_agree_at_once :
    RepliesAgree unanswered (fun _ => [.accepted 8, .refused true true]) .authOk := by
  have soft : ∀ ssl, ∀ result ∈ [SendResult.accepted 8, .refused true true],
      result.isSoft ssl = true := by
    decide
  refine (replies_agree_iff unanswered
    (fun _ => [.accepted 8, .refused true true]) .authOk soft).mpr ?_
  exact (by decide : (ascii "AUTH_OK\n").length ≤ 8)

/-- Three bytes are accepted, then there is no space for a while. -/
def shortCount : List SendResult :=
  [.accepted 3, .refused true true, .accepted 5]

/-- The plain connection gets three bytes of the reply. -/
theorem replies_disagree :
    (∀ ssl, ∀ result ∈ shortCount, result.isSoft ssl = true) ∧
      Transport.transmit true shortCount Reply.authOk.text = ascii "AUTH_OK\n" ∧
      Transport.transmit false shortCount Reply.authOk.text = ascii "AUT" ∧
      ¬ RepliesAgree unanswered (fun _ => shortCount) .authOk := by
  have short : Transport.transmit false shortCount Reply.authOk.text = ascii "AUT" := by
    decide
  refine ⟨by decide, by decide, short, ?_⟩
  intro agree
  have plain := agree false
  simp [unanswered, Context.over, short] at plain
  exact absurd plain (by decide)

end TitanShare
