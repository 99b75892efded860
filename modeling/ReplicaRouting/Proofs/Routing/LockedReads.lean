import ReplicaRouting.Proofs.Routing.Reads
import ReplicaRouting.Proofs.Settings
import ReplicaRouting.Proofs.Statement.RowLocks

/-!
Reads that lock rows. With usable settings a statement that ends with the clause is never served by
a replica: the window has room for the clause, and the chain sends a row lock to main before the
tracker is asked.
-/

namespace ReplicaRouting.Session

variable {σ : Type} {deployment : Deployment σ} {session : Session} {settings : Settings}

theorem trailing_lock_avoids_replica (hv : settings.validate = .ok ())
    (hc : deployment.classifier = { settings := settings.routing })
    (hr : Reachable deployment.collaborators session) (world : σ) {seed : Decision} {sql : String}
    (hsql : seed.sql = some sql) {ending : List Char} (hending : Text.IsEnding 10 ending sql.toList)
    (hclause : Text.asciiLower ending = "for update".toList) (handle : Handle)
    (hok : (readHandle deployment.collaborators seed ⟨session, world⟩).1 = .ok handle) :
    handle.kind ≠ .replica := by
  have husable : settings.Usable := settings.validate_eq_ok_iff.mp hv
  have hroom : Settings.lockClause.length ≤ deployment.classifier.settings.lockWindow.toNat := by
    rw [hc]
    exact husable.lockWindow
  have hlock : deployment.classifier.isLock seed.sql = true := by
    rw [hsql]
    exact deployment.classifier.isLock_of_trailing hroom hending hclause
  have hrefused : ¬ Admits deployment session seed world := fun hadmits =>
    absurd (hlock.symm.trans hadmits.notLock) (by simp)
  rw [readHandle_kind_of_not_admits hr.sound hrefused hok]
  exact HandleKind.noConfusion

/-- A fresh session sends such a read to main although its replica has caught up. -/
theorem trailing_lock_on_main :
    let settings : Settings := { routing := { lockWindow := 10 } }
    let deployment : Deployment Bool :=
      { Deployment.obliging with classifier := { settings := settings.routing } }
    let session : Session := { id := "a" }
    ∃ handle, (readHandle deployment.collaborators (.read "SELECT 'é' For Update")
      ⟨session, true⟩).1 = .ok handle ∧ handle.kind ≠ .replica := by
  intro settings deployment session
  have hok : (readHandle deployment.collaborators (.read "SELECT 'é' For Update")
      ⟨session, true⟩).1 = .ok (.main ⟨0⟩) := by decide +kernel
  have hv : settings.validate = .ok () := by decide +kernel
  have hending : Text.IsEnding 10 "For Update".toList "SELECT 'é' For Update".toList :=
    ⟨by decide +kernel, by decide +kernel⟩
  exact ⟨_, hok, trailing_lock_avoids_replica hv rfl (.fresh "a") true rfl hending
    (by decide +kernel) _ hok⟩

end ReplicaRouting.Session
