import DuckdbWasm.Cache.Coherence
import DuckdbWasm.Registry.MoveFile
import DuckdbWasm.Signing.S3Requests
import DuckdbWasm.Entry.Exceptions
import DuckdbWasm.Entry.Failures
import DuckdbWasm.Entry.Counts
import DuckdbWasm.Entry.Remote
import DuckdbWasm.Entry.Glob
import DuckdbWasm.Read.ReadFile
import DuckdbWasm.Read.Ranged
import DuckdbWasm.Opfs.Sessions
import DuckdbWasm.Ladder.FullRead
import DuckdbWasm.Ladder.Requests
import DuckdbWasm.Opfs.Store
import DuckdbWasm.Cast.FunctionSet
import DuckdbWasm.Frame.Heap
