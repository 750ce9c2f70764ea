import ApibaraDna.Stream.Types
import ApibaraDna.Stream.CursorProducer
import ApibaraDna.Stream.Steps
import ApibaraDna.Stream.Batches
import ApibaraDna.Stream.Progress
import ApibaraDna.Stream.Checkpoint
import ApibaraDna.Stream.Finality
import ApibaraDna.Stream.Walk
import ApibaraDna.Stream.PendingMode
import ApibaraDna.Stream.Driver
import ApibaraDna.Stream.Responses
import ApibaraDna.Stream.Wakeup
import ApibaraDna.Stream.Reorg
import ApibaraDna.Stream.Simulation
