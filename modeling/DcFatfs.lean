import DcFatfs.Basic
import DcFatfs.Handle.Pool
import DcFatfs.Handle.Ops
import DcFatfs.Handle.Frame
import DcFatfs.Handle.Slots
import DcFatfs.Handle.Linkmap
import DcFatfs.Handle.Stale
import DcFatfs.Handle.Seek
import DcFatfs.Handle.Ioctl
import DcFatfs.Handle.Stat
import DcFatfs.Handle.Isolation
import DcFatfs.Handle.Mmap
import DcFatfs.Fattime
import DcFatfs.Mount.Registry
import DcFatfs.Mount.Bdev
import DcFatfs.Mount.Frame
import DcFatfs.Mount.Slots
import DcFatfs.Mount.Paths
import DcFatfs.Mount.Engine
import DcFatfs.Mount.DiskIo
import DcFatfs.Mount.DiskWrite
import DcFatfs.System.Live
