import ScopedEngine.Config.Json
import ScopedEngine.Config.Overrides
import ScopedEngine.Config.Validity
import ScopedEngine.Host.Logging
import ScopedEngine.Host.Script
import ScopedEngine.Session.Script
import ScopedEngine.Proofs.Pairing
import ScopedEngine.Proofs.Points
import ScopedEngine.Proofs.Sessions
import ScopedEngine.Proofs.Aliasing
import ScopedEngine.Proofs.Linking
import ScopedEngine.Proofs.Recording
import ScopedEngine.Proofs.Nesting
import ScopedEngine.Proofs.Sharing
import ScopedEngine.Proofs.Lives
import ScopedEngine.Proofs.Layouts
import ScopedEngine.Proofs.Precedence
import ScopedEngine.Proofs.Building
import ScopedEngine.Proofs.Quoting
import ScopedEngine.Proofs.Scanning
import ScopedEngine.Proofs.Compact
import ScopedEngine.Proofs.Roundtrip
import ScopedEngine.Proofs.Tallying
import ScopedEngine.Proofs.Loading
import ScopedEngine.Proofs.Logging
import ScopedEngine.Proofs.Observing
import ScopedEngine.Proofs.Marshaling
import ScopedEngine.Proofs.Overlays
import ScopedEngine.Proofs.Escaping
