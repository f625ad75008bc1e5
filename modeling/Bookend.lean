import Bookend.Main
import Bookend.Plugin
import Bookend.Registry.Display
import Bookend.Proofs.Order
import Bookend.Proofs.Pass
import Bookend.Proofs.Tables
import Bookend.Proofs.Drain
import Bookend.Proofs.Step
import Bookend.Proofs.Situation
import Bookend.Proofs.CleanupOrder
import Bookend.Proofs.Release
import Bookend.Proofs.Enrolment
import Bookend.Proofs.Rules
import Bookend.Proofs.ExitStatus
import Bookend.Proofs.Catching
import Bookend.Proofs.Shape
import Bookend.Proofs.Retention
import Bookend.Proofs.Alone
import Bookend.Proofs.Once
import Bookend.Proofs.Grammar
import Bookend.Proofs.AroundMain
import Bookend.Proofs.Refusal
import Bookend.Proofs.Integrity
import Bookend.Proofs.Durations
import Bookend.Proofs.Hushed
import Bookend.Proofs.Interruption
import Bookend.Proofs.Loading
import Bookend.Proofs.Listening
import Bookend.Proofs.RunningOrder
import Bookend.Proofs.Telling
import Bookend.Proofs.Permanence
import Bookend.Proofs.Acquisition
import Bookend.Proofs.Attribution
import Bookend.Proofs.Writings
import Bookend.Proofs.Legible
