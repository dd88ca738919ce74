import Conduit.CheckoutSpark.Digest
import Conduit.CheckoutSpark.Guarantees

namespace Conduit.CheckoutSpark

open Js Throwing Sample

lemma collisionFree_of_nodup {P : Platform} {l : List Json} (h : (l.map P.digest).Nodup) :
    CollisionFree P (l ++ l) := by
  have hi := List.inj_on_of_nodup_map h
  intro a ha b hb hab
  exact hi (by simpa using ha) (by simpa using hb) hab

namespace Sample

def capitalPlan : SettledPlan :=
  { plan with funding := { plan.funding with
      paymentRequest := fundingInvoice.map fun c =>
        if 97 ≤ c.toNat ∧ c.toNat ≤ 122 then Char.ofNat (c.toNat - 32) else c } }

def schemedDigest : Json → Text
  | .arr [domain, v, c, o, m, w, n, t, u, q, .arr (r :: .str request :: f), l, x, p] =>
    if request = lightningScheme ++ fundingInvoice then
      hexText 64 0x11132eb4ae10e293ff125c392d3c9d5de420994e8d7313498ba58cd09f7a6850
    else digest (.arr [domain, v, c, o, m, w, n, t, u, q, .arr (r :: .str request :: f), l, x, p])
  | value => digest value

def schemedPlatform : Platform := { platform with digest := schemedDigest }

def schemedPlan : SettledPlan :=
  { plan with
    funding := { plan.funding with
      paymentRequest := lightningScheme ++ (lightningScheme ++ fundingInvoice) }
    planDigest := hexText 64 0x11132eb4ae10e293ff125c392d3c9d5de420994e8d7313498ba58cd09f7a6850 }

def strippedPlan : SettledPlan :=
  { schemedPlan with funding := { plan.funding with
      paymentRequest := lightningScheme ++ fundingInvoice } }

end Sample

section
variable {P : Platform} {p q a b : SettledPlan}

end

end Conduit.CheckoutSpark
