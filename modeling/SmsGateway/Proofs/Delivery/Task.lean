import SmsGateway.Delivery.Task
import SmsGateway.Proofs.Event.Signature
import SmsGateway.Proofs.NameTable

namespace SmsGateway

namespace DeliveryTask

/-- A task that is signed with a key: it shows the key, and what it shows as the signature is that
of its body. -/
structure IsSigned (t : DeliveryTask) (key : String) : Prop where
  shows : NameTable.find? t.headers apiKeyHeader = some key
  signature : ∃ signature, NameTable.find? t.headers signatureHeader = some signature ∧
    Signature.verify t.body key signature = true

theorem IsSigned.withMethod {t : DeliveryTask} {key : String} (h : t.IsSigned key)
    (method : TaskMethod) : (t.withMethod method).IsSigned key :=
  ⟨h.shows, h.signature⟩

variable (e : Envelope) (url key : String)

theorem body_forEvent : (forEvent e url key).body = e.wireBytes := by
  rw [forEvent]

theorem headers_forEvent :
    (forEvent e url key).headers =
      [("content-type", jsonContentType), (apiKeyHeader, key),
        (signatureHeader, Signature.sign key e.wireBytes)] := by
  apply NameTable.ofEntries_eq_self
  simp only [NameTable.Ascending, List.pairwise_cons, List.mem_cons, List.not_mem_nil, or_false,
    forall_eq_or_imp, forall_eq, List.Pairwise.nil, and_true, false_implies, implies_true]
  decide

theorem toLower_of_mem_headers {h : String × String} (hh : h ∈ (forEvent e url key).headers) :
    h.1.toLower = h.1 := by
  have hlower : ∀ name ∈ ["content-type", apiKeyHeader, signatureHeader], name.toLower = name := by
    decide +kernel
  rw [headers_forEvent] at hh
  exact hlower h.1 (List.mem_map_of_mem hh)

theorem find?_apiKeyHeader :
    NameTable.find? (forEvent e url key).headers apiKeyHeader = some key := by
  rw [headers_forEvent]
  rfl

theorem find?_signatureHeader :
    NameTable.find? (forEvent e url key).headers signatureHeader =
      some (Signature.sign key e.wireBytes) := by
  have hcontent : signatureHeader ≠ "content-type" := by decide
  have hkey : signatureHeader ≠ apiKeyHeader := by decide
  rw [headers_forEvent, NameTable.find?, NameTable.lookup_cons_eq_ite, if_neg hcontent,
    NameTable.lookup_cons_eq_ite, if_neg hkey, List.lookup_cons_self]

theorem isSigned_forEvent : (forEvent e url key).IsSigned key := by
  refine ⟨find?_apiKeyHeader e url key, _, find?_signatureHeader e url key, ?_⟩
  rw [body_forEvent]
  exact Signature.verify_sign key e.wireBytes

end DeliveryTask

end SmsGateway
